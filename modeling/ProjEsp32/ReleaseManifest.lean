import ProjEsp32.FirmwarePackageVerifier
import ProjEsp32.FlatJson
import ProjEsp32.JsonStrings
import ProjEsp32.PythonJson

/-!
# The manifests of the release script

The script that builds a package writes its manifest with `json.dumps`, and the
device takes it apart with `prepare`. The two agree on the fields, the ranges of
the numbers, the digits of the digest and the sizes only by convention: every
manifest of the script with the signature of the release key is accepted when
it is for this device, with the metadata that the script was given, and any
other one is refused.
-/

namespace ProjEsp32.ReleaseManifest

open ArduinoText ArduinoJson CheckedResult FirmwarePackageVerifier JsonStrings JsonText PythonJson

variable {α : Type}

/-- The bytes of a text in UTF-8, one character for each of them. -/
def byteString (text : List Char) : String :=
  String.ofList ((utf8 text).map fun byte => Char.ofNat byte.toNat)

/-! ### The script -/

/-- The arguments that end up in the manifest. The command line consists of C
strings. -/
structure Arguments where
  /-- The model that the image is for. -/
  model : String
  /-- The revision of its hardware. -/
  hardwareRevision : Int
  /-- The version, for people. -/
  version : String
  /-- The build number. -/
  build : Int
  /-- The channel that it is offered on. -/
  channel : String := "dev"
  /-- None of the texts has a zero byte. -/
  noZero : ∀ text ∈ [model, version, channel], '\x00' ∉ text.toList

/-- `hexdigest`: two digits of lower case for each byte. -/
def hexdigest (digest : List UInt8) : String :=
  String.ofList (digest.flatMap fun byte =>
    [Nat.digitChar (byte.toNat / 16), Nat.digitChar (byte.toNat % 16)])

/-- The dictionary of `main`; the firmware is the content of firmware.bin. -/
def manifest (crypto : Crypto) (args : Arguments) (firmware : List UInt8) : Dict :=
  [("schema", .int 1),
    ("model", .str args.model),
    ("hardware_revision", .int args.hardwareRevision),
    ("version", .str args.version),
    ("build", .int args.build),
    ("channel", .str args.channel),
    ("size", .int firmware.length),
    ("sha256", .str (hexdigest (crypto.sha256 firmware))),
    ("file", .str "firmware.bin")]

/-- The bytes of manifest.json. -/
def manifestText (crypto : Crypto) (args : Arguments) (firmware : List UInt8) : String :=
  dumps (manifest crypto args firmware) ++ "\n"

/-! ### What the device relies on -/

/-- The signature, in base64, is one of the release key for this text. -/
structure Signed (crypto : Crypto) (text signature : String) : Prop where
  /-- There is a signature. -/
  nonempty : (trim signature).length ≠ 0
  /-- Its text fits. -/
  short : (trim signature).length ≤ 192
  /-- It is decoded, and verifies. -/
  verifies : ∃ raw, crypto.base64Decode (trim signature) = some raw ∧ raw ≠ [] ∧
    crypto.verifies PUBLIC_KEY_PEM (crypto.sha256 (bytes text)) raw = true

/-- A copy of a string, with the zero byte behind it. -/
def room : Value → ℕ
  | .str text => (utf8 text).length + 1
  | _ => 0

/-- What an object takes in a document: a slot for each member, and copies of
the key and of the string. -/
def objectRoom (members : List (List Char × Value)) : ℕ :=
  (members.map fun m => FlatJson.SLOT_SIZE + ((utf8 m.1).length + 1) + room m.2).sum

/-- What a document holds for an integer. -/
structure StoredInt (stored : Json α) (n : Int) : Prop where
  /-- An integer of 32 bits is held as it is. -/
  unsigned : 0 ≤ n → n < 2^32 → stored = .int n
  /-- It is some number that is no unsigned integer of 32 bits either. -/
  other : ¬(0 ≤ n ∧ n < 2^32) → ∀ width ≤ 32, stored.isUInt width = false

/-- What a document holds for a value of the text. -/
def Stored (stored : Json α) : Value → Prop
  | .str text => stored = .str (byteString text)
  | .number text => ∀ n : Int, text = (toString n).toList → StoredInt stored n
  | _ => True

/-- The library parses this text: where it is an object with these members, it
is read when there is room for it, and what is read are its members. -/
structure Parses (lib : JsonLibrary α) (capacity : ℕ) (text : String)
    (members : List (List Char × Value)) : Prop where
  /-- The text is read when there is room for it. -/
  accepts : Says text (.obj members) → (members.map Prod.fst).Nodup →
    objectRoom members ≤ capacity → ∃ document, lib.deserializeJson capacity text = some document
  /-- What is read are its members. -/
  stores : Says text (.obj members) → (members.map Prod.fst).Nodup →
    ∀ document, lib.deserializeJson capacity text = some document →
      ∀ m ∈ members, Stored (document.member (byteString m.1)) m.2

/-! ### The statement -/

/-- The package is for this device: every condition that `prepare` puts on it. -/
structure Applicable (identity : FirmwareIdentity) (args : Arguments) (firmware : List UInt8) :
    Prop where
  /-- The model is that of the device. -/
  model : byteString args.model.toList = identity.MODEL
  /-- And so is the revision of the hardware. -/
  hardware : args.hardwareRevision = identity.HARDWARE_REVISION
  /-- And the channel. -/
  channel : byteString args.channel.toList = identity.CHANNEL
  /-- The version is a safe token. -/
  version : safeToken args.version 48 = true
  /-- The build is a later one. -/
  newer : (identity.BUILD : Int) < args.build
  /-- And a 32-bit number. -/
  build : args.build < 2^32
  /-- There is a firmware. -/
  nonempty : firmware.length ≠ 0
  /-- Whose size is a 32-bit number. -/
  size : firmware.length < 2^32

/-- The metadata are the arguments, the size of the file and its digest. -/
structure Describes (crypto : Crypto) (args : Arguments) (firmware : List UInt8)
    (metadata : Metadata) : Prop where
  /-- The metadata are valid. -/
  valid : metadata.valid = true
  /-- The schema is the one that the script writes. -/
  schema : metadata.schema = 1
  /-- The model. -/
  model : metadata.model = byteString args.model.toList
  /-- The revision of the hardware. -/
  hardwareRevision : (metadata.hardwareRevision : Int) = args.hardwareRevision
  /-- The version. -/
  version : metadata.version = args.version
  /-- The build number. -/
  build : (metadata.build : Int) = args.build
  /-- The channel. -/
  channel : metadata.channel = byteString args.channel.toList
  /-- The size of the firmware. -/
  size : metadata.size = firmware.length
  /-- Its digest in digits. -/
  sha256Hex : metadata.sha256Hex = hexdigest (crypto.sha256 firmware)
  /-- And in bytes. -/
  sha256 : metadata.sha256 = crypto.sha256 firmware

/-- The identity has the types of its constants, and its names leave room for
the other fields in a manifest. -/
structure Nameable (identity : FirmwareIdentity) : Prop where
  /-- The revision is a 16-bit number. -/
  revision : identity.HARDWARE_REVISION < 2^16
  /-- Model and channel are short together. -/
  names : identity.MODEL.length + identity.CHANNEL.length ≤ 256

/-- Every image that keeps the names and the revision has such an identity. -/
theorem nameable_build (build : ℕ) : Nameable { BUILD := build } where
  revision := (by decide : 1 < 2^16)
  names := (by decide : "proj-esp32-35".length + "dev".length ≤ 256)

/-! ### The order of the keys -/

/-- The dictionary in the order in which it is printed. -/
theorem sortKeys_manifest (crypto : Crypto) (args : Arguments) (firmware : List UInt8) :
    sortKeys (manifest crypto args firmware) =
      [("build", .int args.build), ("channel", .str args.channel), ("file", .str "firmware.bin"),
        ("hardware_revision", .int args.hardwareRevision), ("model", .str args.model),
        ("schema", .int 1), ("sha256", .str (hexdigest (crypto.sha256 firmware))),
        ("size", .int firmware.length), ("version", .str args.version)] := by
  simp [sortKeys, manifest, List.insertionSort, List.orderedInsert]

/-! ### Bytes and digits -/

/-- A text of ASCII is its own bytes. -/
theorem byteString_of_ascii {text : List Char} (h : ∀ c ∈ text, c.toNat < 0x80) :
    byteString text = String.ofList text := by
  have hchars : (text.map fun c => c.toNat.toUInt8).map (fun byte => Char.ofNat byte.toNat) =
      text := by
    rw [List.map_map]
    refine (List.map_congr_left fun c hc => ?_).trans (List.map_id text)
    have hvalue : c.toNat.toUInt8.toNat = c.toNat := Nat.mod_eq_of_lt (by have := h c hc; omega)
    rw [Function.comp_apply, hvalue, Char.ofNat_toNat, id]
  rw [byteString, utf8_of_ascii h, hchars]

/-- A byte string has a character for every byte. -/
theorem length_byteString (text : List Char) : (byteString text).length = (utf8 text).length := by
  rw [byteString, String.length_ofList, List.length_map]

/-- The bytes of a text without zero have none. -/
theorem cString_byteString {text : List Char} (h : '\x00' ∉ text) :
    cString (byteString text) = byteString text := by
  refine cString_eq_self fun c hc hzero => ?_
  rw [byteString, String.toList_ofList] at hc
  obtain ⟨byte, hbyte, rfl⟩ := List.mem_map.mp hc
  have hvalue : byte.toNat = 0 := by
    rw [← toNat_ofByte byte, hzero]
    rfl
  obtain ⟨d, hd, hmem⟩ := List.mem_flatMap.mp hbyte
  by_cases hascii : d.toNat < 0x80
  · rw [utf8EncodeChar_of_ascii hascii, List.mem_singleton] at hmem
    have hnat : d.toNat.toUInt8.toNat = d.toNat := Nat.mod_eq_of_lt (by omega)
    rw [hmem, hnat] at hvalue
    have hd0 : d = '\x00' := Char.toNat_inj.mp hvalue
    exact h (hd0 ▸ hd)
  · have hle := le_of_mem_utf8EncodeChar hascii hmem
    omega

/-- The characters of a token are ASCII. -/
theorem safeToken_ascii {value : String} {maxLength : ℕ} (h : safeToken value maxLength = true) :
    ∀ c ∈ value.toList, c.toNat < 0x80 := by
  intro c hc
  simp only [safeToken, Bool.and_eq_true] at h
  have hchar := List.all_eq_true.mp h.2 c hc
  have hbound {last : Char} (hle : c ≤ last) (hlast : last.toNat < 0x80) : c.toNat < 0x80 :=
    Nat.lt_of_le_of_lt hle hlast
  simp only [isalnum, Bool.or_eq_true, Bool.and_eq_true, decide_eq_true_eq, beq_iff_eq] at hchar
  rcases hchar with ((((((⟨_, hle⟩ | ⟨_, hle⟩) | ⟨_, hle⟩) | rfl) | rfl) | rfl) | rfl)
  · exact hbound hle (by decide)
  · exact hbound hle (by decide)
  · exact hbound hle (by decide)
  · decide
  · decide
  · decide
  · decide

/-- The device finds a token exactly where the argument is one. -/
theorem safeToken_byteString (text : String) (maxLength : ℕ) :
    safeToken (byteString text.toList) maxLength = safeToken text maxLength ∧
      (safeToken text maxLength = true → byteString text.toList = text) := by
  by_cases hascii : ∀ c ∈ text.toList, c.toNat < 0x80
  · have hsame : byteString text.toList = text := by
      rw [byteString_of_ascii hascii, String.ofList_toList]
    exact ⟨by rw [hsame], fun _ => hsame⟩
  · have htext : safeToken text maxLength = false := by
      rw [Bool.eq_false_iff]
      exact fun htoken => hascii (safeToken_ascii htoken)
    have hbytes : safeToken (byteString text.toList) maxLength = false := by
      rw [Bool.eq_false_iff]
      refine fun htoken => hascii fun c hc => ?_
      by_contra hlarge
      -- A character beyond ASCII has bytes beyond ASCII, one at least.
      obtain ⟨byte, hbyte⟩ := List.exists_mem_of_ne_nil (String.utf8EncodeChar c) (by
        rw [← List.length_pos_iff, String.length_utf8EncodeChar]
        exact c.utf8Size_pos)
      have hmem : Char.ofNat byte.toNat ∈ (byteString text.toList).toList := by
        rw [byteString, String.toList_ofList]
        exact List.mem_map_of_mem (List.mem_flatMap.mpr ⟨c, hc, hbyte⟩)
      have hsmall := safeToken_ascii htoken _ hmem
      have hle := le_of_mem_utf8EncodeChar hlarge hbyte
      rw [toNat_ofByte] at hsmall
      omega
    rw [htext, hbytes]
    exact ⟨rfl, fun htoken => by cases htoken⟩

/-- A digit of the digest is read as what it was written for. -/
theorem hexNibble_digitChar {d : ℕ} (h : d < 16) : hexNibble (Nat.digitChar d) = some d := by
  have hall : ∀ d < 16, hexNibble (Nat.digitChar d) = some d := by decide
  exact hall d h

/-- The digits of a digest are read back, by induction on its bytes. -/
theorem hexBytes_hexdigest (digest : List UInt8) :
    hexBytes (hexdigest digest).toList = some digest := by
  rw [hexdigest, String.toList_ofList]
  induction digest with
  | nil => rfl
  | cons byte rest ih =>
    have hbound := byte.toNat_lt
    have hhigh := hexNibble_digitChar (d := byte.toNat / 16) (by omega)
    have hlow := hexNibble_digitChar (d := byte.toNat % 16) (by omega)
    have hbyte : (16*(byte.toNat / 16) + byte.toNat % 16).toUInt8 = byte := by
      rw [Nat.div_add_mod]
      exact UInt8.ofNat_toNat
    rw [List.flatMap_cons, List.cons_append, List.cons_append, List.nil_append, hexBytes, hhigh,
      hlow, ih]
    simp only [Option.bind_eq_bind, Option.bind_some, hbyte]
    rfl

/-- A digest has two digits for a byte. -/
theorem length_hexdigest (digest : List UInt8) :
    (hexdigest digest).length = 2*digest.length := by
  rw [hexdigest, String.length_ofList]
  induction digest with
  | nil => rfl
  | cons byte rest ih =>
    rw [List.flatMap_cons, List.length_append, ih]
    simp only [List.length_cons, List.length_nil]
    omega

/-- A digest of 32 bytes is what the device finds. -/
theorem parseSha256_hexdigest {digest : List UInt8} (h : digest.length = 32) :
    parseSha256 (hexdigest digest) = some digest := by
  have hlength : (hexdigest digest).length = 64 := by
    rw [length_hexdigest, h]
  rw [parseSha256, if_pos hlength, hexBytes_hexdigest]

/-! ### The document -/

variable {lib : JsonLibrary α} {crypto : Crypto} {identity : FirmwareIdentity} {args : Arguments}
variable {firmware : List UInt8} {document : Json α}

/-- The manifest is the object of the dictionary. -/
theorem says_manifestText (crypto : Crypto) (args : Arguments) (firmware : List UInt8) :
    Says (manifestText crypto args firmware) (.obj (members (manifest crypto args firmware))) := by
  have hascii : ∀ c ∈ (manifestText crypto args firmware).toList, c.toNat < 0x80 := by
    rw [manifestText, String.toList_append]
    have hnewline : ∀ c ∈ "\n".toList, c.toNat < 0x80 := List.forall_iff_forall_mem.mp (by decide)
    exact List.forall_mem_append.mpr ⟨dumps_ascii _, hnewline⟩
  refine ⟨_, utf8_of_ascii hascii, ?_⟩
  rw [manifestText, String.toList_append]
  exact (denotes_dumps _).append_blank (List.forall_iff_forall_mem.mp (by decide))

/-- No key of the manifest is there twice. -/
theorem nodup_manifest (crypto : Crypto) (args : Arguments) (firmware : List UInt8) :
    ((members (manifest crypto args firmware)).map Prod.fst).Nodup := by
  have hkeys : ["build".toList, "channel".toList, "file".toList, "hardware_revision".toList,
      "model".toList, "schema".toList, "sha256".toList, "size".toList,
      "version".toList].Nodup := by decide
  rw [members, sortKeys_manifest]
  simp only [List.map_cons, List.map_nil, -String.reduceToList]
  exact hkeys

/-- The fields of the document that was parsed. -/
structure Fields (crypto : Crypto) (args : Arguments) (firmware : List UInt8)
    (document : Json α) : Prop where
  /-- The schema. -/
  schema : StoredInt (document.member "schema") 1
  /-- The model. -/
  model : document.member "model" = .str (byteString args.model.toList)
  /-- The revision of the hardware. -/
  hardwareRevision : StoredInt (document.member "hardware_revision") args.hardwareRevision
  /-- The version. -/
  version : document.member "version" = .str (byteString args.version.toList)
  /-- The build number. -/
  build : StoredInt (document.member "build") args.build
  /-- The channel. -/
  channel : document.member "channel" = .str (byteString args.channel.toList)
  /-- The size of the firmware. -/
  size : StoredInt (document.member "size") firmware.length
  /-- Its digest in digits. -/
  sha256 : document.member "sha256" =
    .str (byteString (hexdigest (crypto.sha256 firmware)).toList)
  /-- The name of the firmware file. -/
  file : document.member "file" = .str "firmware.bin"

/-- The keys are their own bytes. -/
theorem byteString_keys :
    byteString "build".toList = "build" ∧ byteString "channel".toList = "channel" ∧
      byteString "file".toList = "file" ∧
      byteString "hardware_revision".toList = "hardware_revision" ∧
      byteString "model".toList = "model" ∧ byteString "schema".toList = "schema" ∧
      byteString "sha256".toList = "sha256" ∧ byteString "size".toList = "size" ∧
      byteString "version".toList = "version" := by decide

/-- Whatever is parsed of a manifest has these fields. -/
theorem fields_of_parses
    (hparses : Parses lib 1024 (manifestText crypto args firmware)
      (members (manifest crypto args firmware)))
    (hdocument : lib.deserializeJson 1024 (manifestText crypto args firmware) = some document) :
    Fields crypto args firmware document := by
  have hstored := hparses.stores (says_manifestText crypto args firmware)
    (nodup_manifest crypto args firmware) document hdocument
  rw [members, List.forall_mem_map, sortKeys_manifest] at hstored
  simp only [List.forall_mem_cons] at hstored
  obtain ⟨hbuild, hchannel, hfile, hhardware, hmodel, hschema, hsha256, hsize, hversion, -⟩ :=
    hstored
  obtain ⟨hb, hc, hf, hh, hm, hs, h2, hz, hv⟩ := byteString_keys
  rw [hb] at hbuild
  rw [hc] at hchannel
  rw [hf] at hfile
  rw [hh] at hhardware
  rw [hm] at hmodel
  rw [hs] at hschema
  rw [h2] at hsha256
  rw [hz] at hsize
  rw [hv] at hversion
  exact
    { schema := hschema 1 rfl
      model := hmodel
      hardwareRevision := hhardware args.hardwareRevision rfl
      version := hversion
      build := hbuild args.build rfl
      channel := hchannel
      size := hsize firmware.length rfl
      sha256 := hsha256
      file := hfile }

/-- An integer that is found to be unsigned is the one that was printed. -/
theorem StoredInt.of_isUInt {stored : Json α} {n : Int} (h : StoredInt stored n) {width : ℕ}
    (hwidth : width ≤ 32) (huint : stored.isUInt width = true) :
    n < 2^width ∧ (stored.asUInt width : Int) = n := by
  by_cases hrange : 0 ≤ n ∧ n < 2^32
  · rw [h.unsigned hrange.1 hrange.2] at huint ⊢
    simp only [Json.isUInt, Bool.and_eq_true, decide_eq_true_eq] at huint
    refine ⟨huint.2, ?_⟩
    rw [Json.asUInt, if_pos huint]
    exact Int.toNat_of_nonneg huint.1
  · have hnot := h.other hrange width hwidth
    rw [huint] at hnot
    cases hnot

/-- An integer in range is found to be unsigned. -/
theorem StoredInt.isUInt {stored : Json α} {n : ℕ} (h : StoredInt stored n) {width : ℕ}
    (hwidth : width ≤ 32) (hn : n < 2^width) :
    stored.isUInt width = true ∧ stored.asUInt width = n := by
  have hlarge : n < 2^32 := Nat.lt_of_lt_of_le hn (Nat.pow_le_pow_right (by decide) hwidth)
  rw [h.unsigned (Int.natCast_nonneg n) (by exact_mod_cast hlarge)]
  exact ⟨Json.isUInt_of_lt hn, Json.asUInt_of_lt hn⟩

/-! ### Sizes -/

/-- A digest is ASCII. -/
theorem hexdigest_ascii (digest : List UInt8) :
    ∀ c ∈ (hexdigest digest).toList, c.toNat < 0x80 := by
  have hall : ∀ d < 16, (Nat.digitChar d).toNat < 0x80 := by decide
  intro c hc
  rw [hexdigest, String.toList_ofList] at hc
  obtain ⟨byte, _, hmem⟩ := List.mem_flatMap.mp hc
  have hbound := byte.toNat_lt
  simp only [List.mem_cons, List.not_mem_nil, or_false] at hmem
  rcases hmem with rfl | rfl
  · exact hall _ (by omega)
  · exact hall _ (by omega)

/-- A text of ASCII has as many bytes as characters. -/
theorem length_utf8_of_ascii {text : String} (h : ∀ c ∈ text.toList, c.toNat < 0x80) :
    (utf8 text.toList).length = text.length := by
  rw [utf8_of_ascii h, List.length_map, String.length_toList]

/-- The build of a manifest for this device is a natural number, and newer. -/
theorem Applicable.exists_build (h : Applicable identity args firmware) :
    ∃ build : ℕ, args.build = build ∧ identity.BUILD < build ∧ build < 2^32 := by
  obtain ⟨build, hbuild⟩ := Int.eq_ofNat_of_zero_le (Int.le_of_lt
    (Int.lt_of_le_of_lt (Int.natCast_nonneg identity.BUILD) h.newer))
  have hnewer := h.newer
  have hlarge := h.build
  rw [hbuild] at hnewer hlarge
  exact ⟨build, hbuild, by exact_mod_cast hnewer, by exact_mod_cast hlarge⟩

/-- The bytes of the strings of a manifest that is for this device. -/
theorem Applicable.lengths (h : Applicable identity args firmware) (hidentity : Nameable identity)
    (hdigest : (crypto.sha256 firmware).length = 32) :
    (utf8 args.model.toList).length + (utf8 args.channel.toList).length ≤ 256 ∧
      (utf8 args.version.toList).length ≤ 48 ∧
      (utf8 (hexdigest (crypto.sha256 firmware)).toList).length = 64 := by
  have hversion := h.version
  simp only [safeToken, Bool.and_eq_true, decide_eq_true_eq] at hversion
  refine ⟨?_, ?_, ?_⟩
  · rw [← length_byteString, ← length_byteString, h.model, h.channel]
    exact hidentity.names
  · rw [length_utf8_of_ascii (safeToken_ascii h.version)]
    exact hversion.1.2
  · rw [length_utf8_of_ascii (hexdigest_ascii _), length_hexdigest, hdigest]

/-- A number of 32 bits has ten digits at most. -/
theorem length_dumps_int {n : ℕ} (h : n < 2^32) : (Item.int n).dumps.length ≤ 10 := by
  have htext : (Item.int n).dumps = Nat.toDigits 10 n := toList_nat n
  rw [htext]
  exact FlatJson.length_toDigits_le h

/-- A printed text has at most six characters for a byte, and its quotes. -/
theorem length_dumps_str (text : String) :
    (Item.str text).dumps.length ≤ 6*(utf8 text.toList).length + 2 := by
  have hescape := length_escape_le text.toList
  rw [Item.dumps, length_quoted]
  omega

/-- The digits of a digest are printed as they are. -/
theorem length_dumps_hexdigest (digest : List UInt8) :
    (Item.str (hexdigest digest)).dumps.length = 2*digest.length + 2 := by
  have hall : ∀ d < 16, (escapeChar (Nat.digitChar d)).length = 1 := by decide
  have hescape : (escape (hexdigest digest).toList).length = 2*digest.length := by
    rw [hexdigest, String.toList_ofList]
    induction digest with
    | nil => rfl
    | cons byte rest ih =>
      have hbound := byte.toNat_lt
      have hhigh := hall (byte.toNat / 16) (by omega)
      have hlow := hall (byte.toNat % 16) (by omega)
      rw [escape] at ih ⊢
      simp only [List.flatMap_cons, List.cons_append, List.nil_append, List.length_append, hhigh,
        hlow, ih, List.length_cons]
      omega
  rw [Item.dumps, length_quoted, hescape]

/-- The document has room for the manifest. -/
theorem Applicable.room_le (h : Applicable identity args firmware) (hidentity : Nameable identity)
    (hdigest : (crypto.sha256 firmware).length = 32) :
    objectRoom (members (manifest crypto args firmware)) ≤ 1024 := by
  obtain ⟨hnames, hversion, hsha256⟩ := h.lengths hidentity hdigest
  have hkeys : (utf8 "build".toList).length = 5 ∧ (utf8 "channel".toList).length = 7 ∧
      (utf8 "file".toList).length = 4 ∧ (utf8 "hardware_revision".toList).length = 17 ∧
      (utf8 "model".toList).length = 5 ∧ (utf8 "schema".toList).length = 6 ∧
      (utf8 "sha256".toList).length = 6 ∧ (utf8 "size".toList).length = 4 ∧
      (utf8 "version".toList).length = 7 := by decide
  obtain ⟨hb, hc, hf, hh, hm, hs, h2, hz, hv⟩ := hkeys
  have hfile : (utf8 "firmware.bin".toList).length = 12 := by decide
  rw [members, sortKeys_manifest]
  simp only [objectRoom, List.map_cons, List.map_nil, List.sum_cons, List.sum_nil, Item.value, room,
    FlatJson.SLOT_SIZE, hb, hc, hf, hh, hm, hs, h2, hz, hv, hfile, hsha256, -String.reduceToList]
  omega

/-- The manifest is within the limit of the device. -/
theorem Applicable.length_le (h : Applicable identity args firmware) (hidentity : Nameable identity)
    (hdigest : (crypto.sha256 firmware).length = 32) :
    (manifestText crypto args firmware).length ≠ 0 ∧
      (manifestText crypto args firmware).length ≤ 2048 := by
  obtain ⟨hnames, hversion, hsha256⟩ := h.lengths hidentity hdigest
  have hkeys : (escape "build".toList).length = 5 ∧ (escape "channel".toList).length = 7 ∧
      (escape "file".toList).length = 4 ∧ (escape "hardware_revision".toList).length = 17 ∧
      (escape "model".toList).length = 5 ∧ (escape "schema".toList).length = 6 ∧
      (escape "sha256".toList).length = 6 ∧ (escape "size".toList).length = 4 ∧
      (escape "version".toList).length = 7 := by decide
  obtain ⟨hb, hc, hf, hh, hm, hs, h2, hz, hv⟩ := hkeys
  have hfile : (Item.str "firmware.bin").dumps.length = 14 := by decide
  have hschema : (Item.int 1).dumps.length = 1 := by decide
  obtain ⟨build, hbuild, _, hbuildRange⟩ := h.exists_build
  have hbuildText : (Item.int args.build).dumps.length ≤ 10 := by
    rw [hbuild]
    exact length_dumps_int hbuildRange
  have hrevisionText : (Item.int args.hardwareRevision).dumps.length ≤ 10 := by
    rw [h.hardware]
    exact length_dumps_int (Nat.lt_trans hidentity.revision (by decide))
  have hsizeText : (Item.int firmware.length).dumps.length ≤ 10 := length_dumps_int h.size
  have hmodelText := length_dumps_str args.model
  have hchannelText := length_dumps_str args.channel
  have hversionText := length_dumps_str args.version
  have hsha256Text := length_dumps_hexdigest (crypto.sha256 firmware)
  have hnewline : "\n".length = 1 := rfl
  have hobject : (dumps (manifest crypto args firmware)).length =
      1 + ((sortKeys (manifest crypto args firmware)).map fun m =>
        (escape m.1.toList).length + m.2.dumps.length + 4).sum := by
    have hne : (sortKeys (manifest crypto args firmware)).map
        (fun m => (escape m.1.toList, m.2.dumps)) ≠ [] := by
      rw [sortKeys_manifest]
      simp
    rw [dumps, String.length_ofList, length_objectText hne, List.map_map]
    rfl
  rw [sortKeys_manifest] at hobject
  simp only [List.map_cons, List.map_nil, List.sum_cons, List.sum_nil, hb, hc, hf, hh, hm, hs, h2,
    hz, hv, hfile, hschema, -String.reduceToList] at hobject
  rw [manifestText, String.length_append, hnewline]
  omega

/-! ### The script and the device -/

/-- A signature of the release key passes, whenever the hash does. -/
theorem Signed.verifySignature {text signature : String} (h : Signed crypto text signature) :
    verifySignature crypto true text signature = .ok () := by
  obtain ⟨raw, hdecode, hraw, hverify⟩ := h.verifies
  have hencoded : ((trim signature).length == 0 || 192 < (trim signature).length) = false := by
    simp [h.nonempty, h.short]
  have hlength : (raw.length == 0) = false := by simpa using hraw
  simp only [FirmwarePackageVerifier.verifySignature, bind_eq_ok, refuseIf_eq_ok, orRefuse_eq_ok]
  exact ⟨(), hencoded, raw, hdecode, (), hlength, _, rfl, by simp [hverify]⟩

/-- What is read of a string as a C string. -/
theorem orCStr_byteString {stored : Json α} {text : String}
    (h : stored = .str (byteString text.toList)) (hzero : '\x00' ∉ text.toList) :
    stored.isCStr = true ∧ stored.orCStr "" = byteString text.toList := by
  rw [h]
  exact ⟨rfl, cString_byteString hzero⟩

/-- The digits of a digest, as they are stored. -/
theorem byteString_hexdigest (digest : List UInt8) :
    byteString (hexdigest digest).toList = hexdigest digest ∧
      '\x00' ∉ (hexdigest digest).toList := by
  have hall : ∀ d < 16, Nat.digitChar d ≠ '\x00' := by decide
  refine ⟨?_, fun hzero => ?_⟩
  · rw [byteString_of_ascii (hexdigest_ascii digest), String.ofList_toList]
  · rw [hexdigest, String.toList_ofList] at hzero
    obtain ⟨byte, _, hmem⟩ := List.mem_flatMap.mp hzero
    have hbound := byte.toNat_lt
    simp only [List.mem_cons, List.not_mem_nil, or_false] at hmem
    rcases hmem with heq | heq
    · exact hall _ (by omega) heq.symm
    · exact hall _ (by omega) heq.symm

/-- A field of the document that is found to be a C string, with this text. -/
def ReadsAs (stored : Json α) (text : String) : Prop :=
  stored.isCStr = true ∧ stored.orCStr "" = text

/-- The strings that `prepare` finds, whatever the manifest is for. -/
theorem Fields.strings (h : Fields crypto args firmware document) :
    ReadsAs (document.member "model") (byteString args.model.toList) ∧
      ReadsAs (document.member "version") (byteString args.version.toList) ∧
      ReadsAs (document.member "channel") (byteString args.channel.toList) ∧
      ReadsAs (document.member "sha256") (hexdigest (crypto.sha256 firmware)) ∧
      ReadsAs (document.member "file") "firmware.bin" := by
  have hzero := args.noZero
  simp only [List.forall_mem_cons] at hzero
  obtain ⟨hmodel, hversion, hchannel, -⟩ := hzero
  obtain ⟨hdigits, hdigitsZero⟩ := byteString_hexdigest (crypto.sha256 firmware)
  have hsha256 := orCStr_byteString h.sha256 hdigitsZero
  rw [hdigits] at hsha256
  refine ⟨orCStr_byteString h.model hmodel, orCStr_byteString h.version hversion,
    orCStr_byteString h.channel hchannel, hsha256, ?_⟩
  rw [h.file]
  exact ⟨rfl, cString_eq_self (List.forall_iff_forall_mem.mp (by decide))⟩

/-- A manifest that passes is for this device. -/
theorem applicable_of_checkManifest {callsSucceed : Bool} {signature : String}
    {metadata : Metadata}
    (hparses : Parses lib 1024 (manifestText crypto args firmware)
      (members (manifest crypto args firmware)))
    (h : checkManifest lib crypto identity callsSucceed (manifestText crypto args firmware)
      signature = .ok metadata) : Applicable identity args firmware := by
  simp only [checkManifest, bind_eq_ok, refuseIf_eq_ok, orRefuse_eq_ok] at h
  obtain ⟨_, _, _, _, document, hdocument, _, htypes, _, _, _, hmodel, _, hhardware, _, hversion, _,
    hbuild, _, hchannel, _, hsize, _⟩ := h
  have hfields := fields_of_parses hparses hdocument
  obtain ⟨hmodelText, hversionText, hchannelText, _⟩ := hfields.strings
  simp only [bne_eq_false_iff_eq, decide_eq_false_iff_not, beq_eq_false_iff_ne,
    Bool.not_eq_false'] at htypes hmodel hhardware hversion hbuild hchannel hsize
  simp only [manifestFields, Bool.and_eq_true] at htypes
  obtain ⟨⟨⟨⟨⟨⟨⟨⟨_, _⟩, huintHardware⟩, _⟩, huintBuild⟩, _⟩, huintSize⟩, _⟩, _⟩ := htypes
  obtain ⟨_, hasHardware⟩ := hfields.hardwareRevision.of_isUInt (by decide) huintHardware
  obtain ⟨hbuildRange, hasBuild⟩ := hfields.build.of_isUInt (by decide) huintBuild
  obtain ⟨hsizeRange, hasSize⟩ := hfields.size.of_isUInt (by decide) huintSize
  rw [hmodelText.2] at hmodel
  rw [hchannelText.2] at hchannel
  rw [hversionText.2, (safeToken_byteString args.version 48).1] at hversion
  exact
    { model := hmodel
      hardware := by rw [← hasHardware, hhardware]
      channel := hchannel
      version := hversion
      newer := by omega
      build := hbuildRange
      nonempty := by omega
      size := by omega }

/-- A number of the document that is found to be unsigned, with this value. -/
def CountsAs (stored : Json α) (width n : ℕ) : Prop :=
  stored.isUInt width = true ∧ stored.asUInt width = n

/-- The numbers that `prepare` finds when the manifest is for this device. -/
theorem Applicable.numbers (h : Applicable identity args firmware) (hidentity : Nameable identity)
    (hfields : Fields crypto args firmware document) {build : ℕ} (hbuild : args.build = build) :
    CountsAs (document.member "schema") 32 1 ∧
      CountsAs (document.member "hardware_revision") 16 identity.HARDWARE_REVISION ∧
      CountsAs (document.member "build") 32 build ∧
      CountsAs (document.member "size") 32 firmware.length := by
  have hbuildRange : build < 2^32 := by
    have hlarge := h.build
    rw [hbuild] at hlarge
    exact_mod_cast hlarge
  have hschemaField : StoredInt (document.member "schema") (1 : ℕ) := hfields.schema
  have hhardwareField := hfields.hardwareRevision
  have hbuildField := hfields.build
  rw [h.hardware] at hhardwareField
  rw [hbuild] at hbuildField
  exact ⟨hschemaField.isUInt (by decide) (by decide),
    hhardwareField.isUInt (by decide) hidentity.revision,
    hbuildField.isUInt (by decide) hbuildRange, hfields.size.isUInt (by decide) h.size⟩

/-- A manifest that is for this device passes, with its metadata. -/
theorem Applicable.checkManifest {signature : String} (h : Applicable identity args firmware)
    (hidentity : Nameable identity) (hdigest : (crypto.sha256 firmware).length = 32)
    (hparses : Parses lib 1024 (manifestText crypto args firmware)
      (members (manifest crypto args firmware)))
    (hsigned : Signed crypto (manifestText crypto args firmware) signature) :
    ∃ metadata, checkManifest lib crypto identity true (manifestText crypto args firmware)
      signature = .ok metadata ∧ Describes crypto args firmware metadata := by
  obtain ⟨document, hdocument⟩ := hparses.accepts (says_manifestText crypto args firmware)
    (nodup_manifest crypto args firmware) (h.room_le hidentity hdigest)
  have hfields := fields_of_parses hparses hdocument
  obtain ⟨hne, hle⟩ := h.length_le hidentity hdigest
  have hlength : ((manifestText crypto args firmware).length == 0 ||
      2048 < (manifestText crypto args firmware).length) = false := by
    simp [hne, hle]
  obtain ⟨build, hbuild, hnewer, _⟩ := h.exists_build
  obtain ⟨⟨huintSchema, hasSchema⟩, ⟨huintHardware, hasHardware⟩, ⟨huintBuild, hasBuild⟩,
    huintSize, hasSize⟩ := h.numbers hidentity hfields hbuild
  obtain ⟨⟨hisModel, hmodel⟩, ⟨hisVersion, hversion⟩, ⟨hisChannel, hchannel⟩,
    ⟨hisSha256, hsha256⟩, hisFile, hfile⟩ := hfields.strings
  rw [(safeToken_byteString args.version 48).2 h.version] at hversion
  have htypes : manifestFields document = true := by
    rw [manifestFields, huintSchema, hisModel, huintHardware, hisVersion, huintBuild, hisChannel,
      huintSize, hisSha256, hisFile]
    rfl
  let package : Metadata :=
    { valid := true
      schema := 1
      hardwareRevision := identity.HARDWARE_REVISION
      build
      size := firmware.length
      model := byteString args.model.toList
      version := args.version
      channel := byteString args.channel.toList
      sha256Hex := hexdigest (crypto.sha256 firmware)
      sha256 := crypto.sha256 firmware }
  refine ⟨package, ?_, ?_⟩
  · have hdigestText :
        parseSha256 ((document.member "sha256").orCStr "") = some (crypto.sha256 firmware) := by
      rw [hsha256, parseSha256_hexdigest hdigest]
    simp only [FirmwarePackageVerifier.checkManifest, bind_eq_ok, refuseIf_eq_ok, orRefuse_eq_ok]
    refine ⟨(), hlength, (), hsigned.verifySignature, document, hdocument, (), by simp [htypes], (),
      by simp [hasSchema], (), by simp [hmodel, h.model], (), by simp [hasHardware], (),
      by simp [hversion, h.version], (), by simp [hasBuild, hnewer], (),
      by simp [hchannel, h.channel], (), by simp [hasSize, h.nonempty], (), by simp [hfile], _,
      hdigestText, ?_⟩
    rw [hasSchema, hasHardware, hasBuild, hasSize, hmodel, hversion, hchannel, hsha256]
    rfl
  · exact
      { valid := rfl
        schema := rfl
        model := rfl
        hardwareRevision := h.hardware.symm
        version := rfl
        build := hbuild.symm
        channel := rfl
        size := rfl
        sha256Hex := rfl
        sha256 := rfl }

/-- Every manifest of the script with the signature of the release key is
accepted by a device that it is for, with the metadata that the script was
given. Any other one is refused, whatever its signature, and leaves no package. -/
theorem prepare_release
    (hparses : Parses lib 1024 (manifestText crypto args firmware)
      (members (manifest crypto args firmware)))
    (hdigest : (crypto.sha256 firmware).length = 32) (hidentity : Nameable identity) :
    (Applicable identity args firmware → ∀ signature,
      Signed crypto (manifestText crypto args firmware) signature →
        ∃ metadata, prepare lib crypto identity true (manifestText crypto args firmware)
          signature = (metadata, .ok ()) ∧ Describes crypto args firmware metadata) ∧
    (¬Applicable identity args firmware → ∀ callsSucceed signature,
      ∃ error, prepare lib crypto identity callsSucceed (manifestText crypto args firmware)
        signature = (clear, .error error) ∧ clear.valid = false) := by
  constructor
  · intro happlicable signature hsigned
    obtain ⟨metadata, hcheck, hdescribes⟩ :=
      happlicable.checkManifest hidentity hdigest hparses hsigned
    refine ⟨metadata, ?_, hdescribes⟩
    rw [prepare, hcheck]
  · intro hother callsSucceed signature
    cases hcheck : checkManifest lib crypto identity callsSucceed
        (manifestText crypto args firmware) signature with
    | ok metadata => exact absurd (applicable_of_checkManifest hparses hcheck) hother
    | error error =>
      refine ⟨error, ?_, rfl⟩
      rw [prepare, hcheck]

/-! ### The sample package -/

/-- The arguments that the sample package was built with. -/
def sampleArguments : Arguments where
  model := "proj-esp32-35"
  hardwareRevision := 1
  version := "0.1.2"
  build := 43
  noZero := by decide

/-- The manifest of the sample. -/
theorem sample_manifestText :
    manifestText sampleCrypto sampleArguments sampleFirmware = sampleManifest := by
  decide +kernel

/-- An integer that is kept as it is. -/
theorem storedInt_int (n : Int) : StoredInt (.int n : Json α) n where
  unsigned := fun _ _ => rfl
  other := by
    intro hrange width hwidth
    have hpow : (2 : Int)^width ≤ 2^32 := pow_le_pow_right₀ (by decide) hwidth
    simp only [Json.isUInt, Bool.and_eq_false_iff, decide_eq_false_iff_not]
    omega

/-- An integer is stored as the value that was written. -/
theorem stored_int (n : Int) : Stored (.int n : Json α) (Item.int n).value := by
  intro other hother
  rw [← toString_int_injective hother]
  exact storedInt_int n

/-- What the library of the sample package reads. -/
def sampleDocument : Json ℕ :=
  .obj [("build", .int 43), ("channel", .str "dev"), ("file", .str "firmware.bin"),
    ("hardware_revision", .int 1), ("model", .str "proj-esp32-35"), ("schema", .int 1),
    ("sha256", .str "0ae8e20e8cb2ab612a320158def8b102a5c98998f924309714ffabed53179e18"),
    ("size", .int 2), ("version", .str "0.1.2")]

/-- The sample is read as its document. -/
theorem sample_deserializeJson (capacity : ℕ) :
    sampleJson.deserializeJson capacity sampleManifest = some sampleDocument := by
  simp only [sampleJson, sampleDocument, if_true]

/-- The library of the sample package parses it. -/
theorem sample_parses : Parses sampleJson 1024
    (manifestText sampleCrypto sampleArguments sampleFirmware)
    (members (manifest sampleCrypto sampleArguments sampleFirmware)) := by
  rw [sample_manifestText]
  refine ⟨fun _ _ _ => ⟨_, sample_deserializeJson 1024⟩, fun _ _ document hdocument => ?_⟩
  rw [sample_deserializeJson] at hdocument
  cases hdocument
  obtain ⟨hb, hc, hf, hh, hm, hs, h2, hz, hv⟩ := byteString_keys
  rw [members, List.forall_mem_map, sortKeys_manifest]
  simp only [List.forall_mem_cons, hb, hc, hf, hh, hm, hs, h2, hz, hv, -String.reduceToList]
  have hstr {stored text : String} (h : byteString text.toList = stored) :
      Stored (.str stored : Json ℕ) (Item.str text).value := congrArg Json.str h.symm
  have hdigits : hexdigest sampleFirmwareDigest =
      "0ae8e20e8cb2ab612a320158def8b102a5c98998f924309714ffabed53179e18" := by decide +kernel
  have hsha256 := (byteString_hexdigest sampleFirmwareDigest).1.trans hdigits
  exact ⟨stored_int 43, hstr (by decide), hstr (by decide), stored_int 1, hstr (by decide),
    stored_int 1, hstr hsha256, stored_int 2, hstr (by decide), by simp⟩

/-- The sample is signed. -/
theorem sample_signed :
    Signed sampleCrypto (manifestText sampleCrypto sampleArguments sampleFirmware) "MAA=" := by
  rw [sample_manifestText]
  have htrim : trim "MAA=" = "MAA=" := by decide
  obtain ⟨raw, hdecode, hverify⟩ := (checkManifest_ok sampleManifest_checked).signature
  have hraw : raw ≠ [] := by
    rw [htrim] at hdecode
    simp only [sampleCrypto, if_true, Option.some.injEq] at hdecode
    rw [← hdecode]
    exact List.cons_ne_nil _ _
  refine ⟨?_, ?_, raw, hdecode, hraw, hverify⟩
  · rw [htrim]
    decide
  · rw [htrim]
    decide

/-- The sample may be applied. -/
theorem sample_applicable : Applicable {} sampleArguments sampleFirmware :=
  ⟨by decide, by decide, by decide, by decide, by decide, by decide, by decide, by decide⟩

/-- The sample package is what its arguments say. -/
theorem prepare_release_sample :
    ∃ metadata, prepare sampleJson sampleCrypto {} true
        (manifestText sampleCrypto sampleArguments sampleFirmware) "MAA=" = (metadata, .ok ()) ∧
      Describes sampleCrypto sampleArguments sampleFirmware metadata :=
  (prepare_release sample_parses (by decide) (nameable_build 42)).1 sample_applicable "MAA="
    sample_signed

end ProjEsp32.ReleaseManifest
