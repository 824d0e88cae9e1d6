import ProjEsp32.PolicyDurability
import ProjEsp32.RemoteTransfer

/-!
# From the policy's URL to the base of a check

The update policy and the remote update validate manifest URLs each in its own
way, and the worker cuts the URL off behind its last slash. The two validators
agree on every URL of the policy. The one URL without a host has its last slash
in the separator of the scheme, and the worker turns it down.
-/

namespace ProjEsp32.PolicyUrls

open ArduinoText CheckedResult FirmwarePackageVerifier FirmwareUpdate PolicyDurability
open RemoteTransfer

variable {α : Type}

/-- The URL that has no host. -/
def HOSTLESS_URL : String := "https://manifest.json"

/-- The error of a worker that finds no base. -/
def BASE_URL_INVALID : String := "manifest_base_url_invalid"

/-- The base of a URL is a directory, and the manifest is a file in it. -/
structure HasBase (url : String) : Prop where
  /-- There is a base. -/
  nonempty : deriveBaseUrl url ≠ ""
  /-- The manifest is in it. -/
  manifest : deriveBaseUrl url ++ "manifest.json" = url
  /-- It ends like a directory. -/
  directory : endsWith (deriveBaseUrl url) "/" = true

variable {url : String}

/-- What the policy's validator says of a URL that is there. -/
structure Accepted (url : String) : Prop where
  /-- The URL is long enough. -/
  long : 16 ≤ url.length
  /-- And not too long. -/
  short : url.length ≤ 384
  /-- It is one of HTTPS. -/
  scheme : startsWith url "https://" = true
  /-- It names a manifest. -/
  file : endsWith url "/manifest.json" = true
  /-- It has no blanks and no control characters. -/
  characters : ∀ c ∈ url.toList, 0x20 < c.toNat

/-- A URL that the policy takes is accepted, the empty one apart. -/
theorem accepted_of_validManifestUrl (h : UpdatePolicy.validManifestUrl url = true)
    (hurl : url ≠ "") : Accepted url := by
  have hlength : ¬url.length = 0 := fun hempty => hurl (String.length_eq_zero_iff.mp hempty)
  unfold UpdatePolicy.validManifestUrl at h
  rw [if_neg hlength] at h
  split at h
  · cases h
  · rename_i hsize
    simp only [Bool.or_eq_true, decide_eq_true_eq, not_or, Nat.not_lt] at hsize
    split at h
    · cases h
    · rename_i hparts
      simp only [Bool.or_eq_true, Bool.not_eq_true', not_or, Bool.not_eq_false] at hparts
      refine ⟨hsize.1, hsize.2, hparts.1, hparts.2, fun c hc => ?_⟩
      have hchar := List.all_eq_true.mp h c hc
      simp only [Bool.and_eq_true, decide_eq_true_eq] at hchar
      exact hchar.1.1.1

/-- White space is not above the blank. -/
theorem isspace_of_blank_lt {c : Char} (h : 0x20 < c.toNat) : isspace c = false := by
  have hne (other : Char) (hother : other.toNat ≤ 0x20) : c ≠ other := by
    rintro rfl
    omega
  simp only [isspace, Bool.or_eq_false_iff, beq_eq_false_iff_ne]
  exact ⟨⟨⟨⟨⟨hne _ (by decide), hne _ (by decide)⟩, hne _ (by decide)⟩, hne _ (by decide)⟩,
    hne _ (by decide)⟩, hne _ (by decide)⟩

/-- An accepted URL reaches the remote update as it is, and is accepted there. -/
theorem Accepted.remote (h : Accepted url) (profile : BuildProfile) :
    trim url = url ∧ validManifestUrl profile url = true := by
  have hlong : ¬url.length < 16 := Nat.not_lt.mpr h.long
  have hshort : ¬384 < url.length := Nat.not_lt.mpr h.short
  refine ⟨trim_eq_self fun c hc => isspace_of_blank_lt (h.characters c hc), ?_⟩
  simp only [validManifestUrl, h.file, h.scheme, hlong, hshort]
  rfl

/-- A manifest right behind the scheme is the whole URL. -/
theorem Accepted.eq_hostless (h : Accepted url) {front : List Char}
    (hurl : url.toList = front ++ '/'::"manifest.json".toList) (hshort : front.length ≤ 7) :
    url = HOSTLESS_URL := by
  obtain ⟨rest, hrest⟩ := List.isPrefixOf_iff_prefix.mp h.scheme
  have hsplit : (front ++ ['/']) ++ "manifest.json".toList = url.toList := by simp [hurl]
  have hscheme : ("https://".toList).length = 8 := by decide
  have hprefix : front ++ ['/'] <+: "https://".toList := by
    refine List.prefix_of_prefix_length_le ⟨_, hsplit⟩ ⟨rest, hrest⟩ ?_
    rw [List.length_append, List.length_singleton, hscheme]
    omega
  obtain ⟨tail, htail⟩ := hprefix
  have hname : "manifest.json".toList = tail ++ rest := by
    have hboth := hsplit.trans hrest.symm
    rw [← htail, List.append_assoc (front ++ ['/'])] at hboth
    exact List.append_cancel_left hboth
  cases tail with
  | nil =>
    rw [List.append_nil] at htail
    rw [← String.toList_inj, ← hsplit, htail]
    decide
  | cons c tail =>
    -- The next letter of the scheme would be the first of the file name.
    have hletter : 'm' = c := (List.cons.inj hname).1
    have hmem : c ∈ "https://".toList := by
      rw [← htail]
      simp
    rw [← hletter] at hmem
    exact absurd hmem (by decide)

/-- The base is missing only where the last slash is the one of the scheme. -/
theorem Accepted.deriveBaseUrl_ne_iff (h : Accepted url) :
    deriveBaseUrl url ≠ "" ↔ url ≠ HOSTLESS_URL := by
  obtain ⟨front, hurl, hslash⟩ := exists_front h.file
  rw [deriveBaseUrl_eq hurl hslash]
  by_cases hlong : 7 < front.length
  · rw [if_pos hlong]
    have hne : url ≠ HOSTLESS_URL := by
      rintro rfl
      have hlength := congrArg List.length hurl
      have htotal : (HOSTLESS_URL.toList).length = 21 := by decide
      have hname : ("manifest.json".toList).length = 13 := by decide
      rw [htotal, List.length_append, List.length_cons, hname] at hlength
      omega
    have hbase : String.ofList (front ++ ['/']) ≠ "" := by
      intro hempty
      have hlength := congrArg String.length hempty
      simp at hlength
    exact iff_of_true hbase hne
  · rw [if_neg hlong]
    have heq := h.eq_hostless hurl (Nat.le_of_not_lt hlong)
    exact iff_of_false (fun hne => hne rfl) (fun hne => hne heq)

/-- Any other accepted URL has a base, with the manifest in it. -/
theorem Accepted.hasBase (h : Accepted url) (hhost : url ≠ HOSTLESS_URL) : HasBase url := by
  have hbase := h.deriveBaseUrl_ne_iff.mpr hhost
  refine ⟨hbase, deriveBaseUrl_append h.file hbase, ?_⟩
  obtain ⟨front, hurl, hslash⟩ := exists_front h.file
  have heq := deriveBaseUrl_eq hurl hslash
  rw [heq] at hbase ⊢
  split
  · exact List.isSuffixOf_iff_suffix.mpr ⟨front, by simp⟩
  · rename_i hshort
    rw [if_neg hshort] at hbase
    exact absurd rfl hbase

/-! ### The errors of a check worker -/

/-- A text is not one with another beginning. -/
theorem append_ne {front target : String} (h : startsWith target front = false) (text : String) :
    front ++ text ≠ target := by
  rintro rfl
  have hprefix : startsWith (front ++ text) front = true := by
    rw [startsWith, String.toList_append]
    exact List.isPrefixOf_iff_prefix.mpr (List.prefix_append _ _)
  rw [h] at hprefix
  cases hprefix

/-- The errors of the transport. -/
def transportErrors : List String :=
  ["https_begin_failed", "http_not_allowed", "http_begin_failed"]

/-- A transport that does not begin is refused with one of its texts. -/
theorem beginHttp_refuses (profile : BuildProfile) (begins : Bool) (url : String) :
    RefusesWith (· ∈ transportErrors) (beginHttp profile begins url) := by
  unfold beginHttp
  split
  · exact refusesWith_refuseIf (by decide)
  · refine (refusesWith_refuseIf (by decide)).bind fun _ => ?_
    exact refusesWith_refuseIf (by decide)

/-- No error of a fetched text is that of a base, with its prefix. -/
theorem fetchText_refuses (profile : BuildProfile) (reply : Reply) (body url : String)
    (maxBytes : ℕ) :
    RefusesWith (fun text => "manifest_" ++ text ≠ BASE_URL_INVALID)
      (fetchText profile reply body url maxBytes) := by
  have htransport : ∀ text ∈ transportErrors, "manifest_" ++ text ≠ BASE_URL_INVALID := by decide
  have hstatus (code : String) : "manifest_" ++ ("http_status_" ++ code) ≠ BASE_URL_INVALID := by
    have hfront : startsWith BASE_URL_INVALID ("manifest_" ++ "http_status_") = false := by decide
    rw [← String.append_assoc]
    exact append_ne hfront code
  unfold fetchText
  refine RefusesWith.bind (.imp htransport (beginHttp_refuses profile reply.begins url))
    fun _ => ?_
  refine RefusesWith.bind (refusesWith_refuseIf (hstatus _)) fun _ => ?_
  refine (refusesWith_refuseIf (by decide)).bind fun _ => ?_
  refine (refusesWith_refuseIf (by decide)).bind fun _ => ?_
  exact refusesWith_ok _

/-- Nor is an error of the signature. -/
theorem fetchSignatureBase64_refuses (profile : BuildProfile)
    (base64Encode : List UInt8 → Option String) (reply : Reply) (url : String) :
    fetchSignatureBase64 profile base64Encode reply url ≠ .ended (.error BASE_URL_INVALID) := by
  have htransport : ∀ text ∈ transportErrors, text ≠ BASE_URL_INVALID := by decide
  have hstatus (code : String) : "signature_http_status_" ++ code ≠ BASE_URL_INVALID :=
    append_ne (by decide) code
  have hstarted : RefusesWith (· ≠ BASE_URL_INVALID) (do
      beginHttp profile reply.begins url
      refuseIf (reply.code != HTTP_CODE_OK) ("signature_http_status_" ++ toString reply.code)
      refuseIf (reply.contentLength ≤ 0 || (MAX_SIGNATURE_BYTES : Int) < reply.contentLength)
        "signature_size_invalid"
      return reply.contentLength.toNat : Except String ℕ) := by
    refine RefusesWith.bind (.imp htransport (beginHttp_refuses profile reply.begins url))
      fun _ => ?_
    refine RefusesWith.bind (refusesWith_refuseIf (hstatus _)) fun _ => ?_
    refine (refusesWith_refuseIf (by decide)).bind fun _ => ?_
    exact refusesWith_ok _
  unfold fetchSignatureBase64
  dsimp only
  split
  · rename_i error herror
    intro hequal
    cases hequal
    exact hstarted _ herror rfl
  · split
    · exact nofun
    · rename_i declaredLength _ _ signature _
      intro hequal
      have hread : RefusesWith (· ≠ BASE_URL_INVALID) (do
          refuseIf (signature.length != declaredLength) "signature_read_incomplete"
          let encoded ← orRefuse (base64Encode signature) "signature_base64_encode_failed"
          refuseIf (encoded.length == 0 || 256 ≤ encoded.length) "signature_base64_encode_failed"
          return encoded : Except String String) := by
        refine (refusesWith_refuseIf (by decide)).bind fun _ => ?_
        refine (refusesWith_orRefuse (by decide)).bind fun _ => ?_
        refine (refusesWith_refuseIf (by decide)).bind fun _ => ?_
        exact refusesWith_ok _
      exact hread _ (Progress.ended.inj hequal) rfl

/-- A check worker ends with the error of the base only where there is none. -/
theorem checkWorkerBody_ne (fw : Firmware α) (inputs : CheckInputs) (s : Updater)
    (hbase : deriveBaseUrl url ≠ "") :
    (checkWorkerBody fw inputs url s).2 ≠ .ended (.error BASE_URL_INVALID) := by
  have hlength : ¬(deriveBaseUrl url).length = 0 :=
    fun hempty => hbase (String.length_eq_zero_iff.mp hempty)
  unfold checkWorkerBody
  dsimp only
  split
  · rename_i error herror
    intro hequal
    cases hequal
    have hwifi : RefusesWith (· ≠ BASE_URL_INVALID)
        (refuseIf (!inputs.wifiConnected) "wifi_not_connected") := refusesWith_refuseIf (by decide)
    refine hwifi.bind (fun _ => ?_) _ herror rfl
    split
    · rename_i error herror
      exact refusesWith_error (fetchText_refuses _ _ _ _ _ error herror)
    · exact refusesWith_ok _
  · rw [if_neg hlength]
    split
    · exact nofun
    · rename_i error herror
      intro hequal
      cases hequal
      exact fetchSignatureBase64_refuses _ _ _ _ herror
    · split
      · rename_i error _
        intro hequal
        have hprepare : "prepare_" ++ error ≠ BASE_URL_INVALID := append_ne (by decide) error
        exact hprepare (Except.error.inj (Progress.ended.inj hequal))
      · exact nofun

/-- Every URL that the policy's validator accepts reaches the remote update as it
is and is accepted there; unless it is the one without a host, its base is the
directory of the manifest, and no check ends with the error of the base. The
check of the one without a host does, as soon as its manifest has been fetched. -/
theorem policyUrl_agrees (α : Type) (profile : BuildProfile)
    (h : UpdatePolicy.validManifestUrl url = true) (hurl : url ≠ "") :
    trim url = url ∧ validManifestUrl profile (trim url) = true ∧
      (url ≠ HOSTLESS_URL → HasBase url ∧ ∀ (fw : Firmware α) inputs s,
        (checkWorkerBody fw inputs url s).2 ≠ .ended (.error BASE_URL_INVALID)) ∧
      (url = HOSTLESS_URL → deriveBaseUrl url = "" ∧ ∀ (fw : Firmware α) inputs s manifest,
        inputs.wifiConnected = true →
        fetchText fw.profile inputs.manifest inputs.manifestBody url MAX_MANIFEST_BYTES =
          .ok manifest →
        checkWorkerBody fw inputs url s = (s, .ended (.error BASE_URL_INVALID))) := by
  have haccepted := accepted_of_validManifestUrl h hurl
  obtain ⟨htrim, hremote⟩ := haccepted.remote profile
  refine ⟨htrim, ?_, ?_, ?_⟩
  · rw [htrim]
    exact hremote
  · intro hhost
    have hbase := haccepted.hasBase hhost
    exact ⟨hbase, fun fw inputs s => checkWorkerBody_ne fw inputs s hbase.nonempty⟩
  · intro hhostless
    have hbase : deriveBaseUrl url = "" := by
      by_contra hne
      exact haccepted.deriveBaseUrl_ne_iff.mp hne hhostless
    refine ⟨hbase, fun fw inputs s manifest hwifi hfetch => ?_⟩
    unfold checkWorkerBody
    rw [hwifi, hfetch, hbase]
    rfl

/-- A URL with a host. -/
theorem policyUrl_sample :
    HasBase "https://updates.example/esp32/manifest.json" :=
  ((policyUrl_agrees ℕ {} (by decide) (by decide)).2.2.1 (by decide)).1

/-- The URL without a host is accepted by both validators, and has no base. -/
theorem policyUrl_hostless :
    ¬ ∀ url, url ≠ "" → UpdatePolicy.validManifestUrl url = true → deriveBaseUrl url ≠ "" := by
  intro h
  exact absurd (h HOSTLESS_URL (by decide) (by decide)) (by decide)

end ProjEsp32.PolicyUrls
