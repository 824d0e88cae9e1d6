import Mathlib.Algebra.Group.Nat.Defs
import Mathlib.Data.List.Chain

/-!
# Reading a stream in turns

A loop that polls a stream until it has read as many bytes as were declared. A turn in
which nothing is available waits, unless the connection is gone or nothing has come for
too long; any other turn reads what is available, at most a chunk and at most what is
missing, and hands it to a consumer, who may refuse it. The clock is a 32-bit counter
that wraps.

The loop ends: while nothing comes, the time since the last progress grows in each
turn, and whenever something comes, there is less left to read. What it reads stays
within what was declared, and is handed on without a gap.
-/

namespace ProjEsp32.PolledReads

variable {β ε σ χ : Type}

/-- What a turn of the loop sees. -/
structure Turn (β χ : Type) where
  /-- How many bytes the stream says it has. -/
  available : Int
  /-- The connection is there. -/
  connected : Bool
  /-- The time at which the turn looks at the clock: before it waits, or after it has
  read. -/
  clock : ℕ
  /-- The bytes that the stream is ready to deliver. -/
  stream : List β
  /-- What the consumer meets. -/
  context : χ

/-- Nothing is available. -/
def Turn.idle (turn : Turn β χ) : Prop := turn.available ≤ 0

instance (turn : Turn β χ) : Decidable turn.idle := inferInstanceAs (Decidable (_ ≤ _))

/-- The time since the last progress, of a counter that wraps. -/
def Turn.elapsed (turn : Turn β χ) (lastProgress : ℕ) : ℕ :=
  (turn.clock % 2^32 + 2^32 - lastProgress) % 2^32

/-- A read: where its bytes go, how many are asked for, and what is delivered. -/
structure Read (β : Type) where
  /-- How many bytes there were before. -/
  offset : ℕ
  /-- How many are asked for. -/
  wanted : ℕ
  /-- Those that are delivered. -/
  bytes : List β

/-- Why the loop has ended, if it has. -/
inductive Ending (ε : Type) where
  | complete
  | disconnected
  | timedOut
  | shortRead
  | refused (error : ε)
  | waiting

/-- The loop: how much is declared, how much is read at once, how long nothing may
come, and who takes the bytes. -/
structure Loop (β ε σ χ : Type) where
  /-- How much is declared. -/
  size : ℕ
  /-- How much is read at once. -/
  chunk : ℕ
  /-- How long nothing may come, in milliseconds. -/
  timeout : ℕ
  /-- Who takes the bytes. -/
  consume : χ → List β → σ → σ × Except ε Unit

/-- What the loop leaves. -/
structure Outcome (β ε σ : Type) where
  /-- What the consumer has made of them. -/
  state : σ
  /-- The bytes that the consumer has taken. -/
  total : ℕ
  /-- The reads, in order. -/
  reads : List (Read β)
  /-- What the consumer was handed, in order. -/
  handed : List (List β)
  /-- Why the loop has ended. -/
  ending : Ending ε

namespace Loop

/-- The read of a turn, when `total` bytes have been taken: what is available, at most a
chunk and at most what is missing. -/
def read (loop : Loop β ε σ χ) (turn : Turn β χ) (total : ℕ) : Read β :=
  let wanted := min turn.available.toNat (min loop.chunk (loop.size - total))
  ⟨total, wanted, turn.stream.take wanted⟩

/-- The loop, from a number of bytes and the time of the last progress on. -/
def run (loop : Loop β ε σ χ) :
    List (Turn β χ) → (total lastProgress : ℕ) → σ → Outcome β ε σ
  | turns, total, lastProgress, state =>
    if loop.size ≤ total then ⟨state, total, [], [], .complete⟩
    else
      match turns with
      | [] => ⟨state, total, [], [], .waiting⟩
      | turn::turns =>
        if turn.idle then
          if !turn.connected then ⟨state, total, [], [], .disconnected⟩
          else if loop.timeout < turn.elapsed lastProgress then ⟨state, total, [], [], .timedOut⟩
          else loop.run turns total lastProgress state
        else
          let read := loop.read turn total
          if read.bytes.isEmpty then ⟨state, total, [read], [], .shortRead⟩
          else
            match loop.consume turn.context read.bytes state with
            | (state, .error error) => ⟨state, total, [read], [read.bytes], .refused error⟩
            | (state, .ok _) =>
              let rest := loop.run turns (total + read.bytes.length) (turn.clock % 2^32) state
              { rest with reads := read::rest.reads, handed := read.bytes::rest.handed }

end Loop

/-- Each turn that waits takes at least one tick and at most so many, as far as the turn
behind it waits as well. -/
def Paced (maxStep : ℕ) (turns : List (Turn β χ)) : Prop :=
  turns.IsChain fun turn next => turn.idle → next.idle →
    turn.clock + 1 ≤ next.clock ∧ next.clock ≤ turn.clock + maxStep

instance (maxStep : ℕ) (turns : List (Turn β χ)) : Decidable (Paced maxStep turns) :=
  inferInstanceAs (Decidable (List.IsChain _ _))

variable {loop : Loop β ε σ χ} {turn : Turn β χ} {turns : List (Turn β χ)}
variable {total lastProgress maxStep : ℕ} {state : σ}

/-! ### One turn -/

/-- A read that may be made when `total` bytes have been taken. -/
structure Fits (loop : Loop β ε σ χ) (total : ℕ) (read : Read β) : Prop where
  /-- The bytes go behind those that have been taken. -/
  offset : read.offset = total
  /-- No more than a chunk is asked for. -/
  chunk : read.wanted ≤ loop.chunk
  /-- Nor more than is declared. -/
  inside : read.offset + read.wanted ≤ loop.size
  /-- No more comes than is asked for. -/
  length : read.bytes.length ≤ read.wanted

/-- What a loop leaves whose first turn was a read. -/
def Outcome.after (read : Read β) (rest : Outcome β ε σ) : Outcome β ε σ :=
  { rest with reads := read::rest.reads, handed := read.bytes::rest.handed }

/-- What the first turn of a loop does. -/
inductive Turned (loop : Loop β ε σ χ) (turn : Turn β χ) (turns : List (Turn β χ))
    (total lastProgress : ℕ) (state : σ) (out : Outcome β ε σ) : Prop
  /-- It waits. -/
  | waits (hidle : turn.idle) (helapsed : turn.elapsed lastProgress ≤ loop.timeout)
      (h : out = loop.run turns total lastProgress state)
  /-- It gives up. -/
  | stops {ending : Ending ε} (hending : ending = .disconnected ∨ ending = .timedOut)
      (h : out = ⟨state, total, [], [], ending⟩)
  /-- It reads nothing although something is available. -/
  | fails {read : Read β} (hread : Fits loop total read) (hbytes : read.bytes = [])
      (h : out = ⟨state, total, [read], [], .shortRead⟩)
  /-- What it reads is refused. -/
  | refuses {read : Read β} {after : σ} {error : ε} (hread : Fits loop total read)
      (hconsume : loop.consume turn.context read.bytes state = (after, .error error))
      (h : out = ⟨after, total, [read], [read.bytes], .refused error⟩)
  /-- What it reads is taken. -/
  | takes {read : Read β} {after : σ} {rest : Outcome β ε σ} (hread : Fits loop total read)
      (hbytes : read.bytes ≠ [])
      (hconsume : loop.consume turn.context read.bytes state = (after, .ok ()))
      (hrest : rest = loop.run turns (total + read.bytes.length) (turn.clock % 2^32) after)
      (h : out = rest.after read)

/-- A loop that has everything is complete. -/
theorem run_of_le (h : loop.size ≤ total) (turns : List (Turn β χ)) (lastProgress : ℕ) (state : σ) :
    loop.run turns total lastProgress state = ⟨state, total, [], [], .complete⟩ := by
  unfold Loop.run
  exact if_pos h

/-- A loop that has not, and no more turns, is waiting. -/
theorem run_nil (h : total < loop.size) (lastProgress : ℕ) (state : σ) :
    loop.run [] total lastProgress state = ⟨state, total, [], [], .waiting⟩ := by
  unfold Loop.run
  rw [if_neg (Nat.not_le.mpr h)]

/-- A turn in which nothing is available. -/
theorem run_idle (h : total < loop.size) (hidle : turn.idle) (turns : List (Turn β χ))
    (lastProgress : ℕ) (state : σ) :
    loop.run (turn::turns) total lastProgress state =
      if !turn.connected then ⟨state, total, [], [], .disconnected⟩
      else if loop.timeout < turn.elapsed lastProgress then ⟨state, total, [], [], .timedOut⟩
      else loop.run turns total lastProgress state := by
  rw [Loop.run, if_neg (Nat.not_le.mpr h)]
  exact if_pos hidle

/-- A turn that reads nothing. -/
theorem run_short (h : total < loop.size) (hidle : ¬ turn.idle)
    (hbytes : (loop.read turn total).bytes = []) (turns : List (Turn β χ)) (lastProgress : ℕ)
    (state : σ) : loop.run (turn::turns) total lastProgress state =
      ⟨state, total, [loop.read turn total], [], .shortRead⟩ := by
  rw [Loop.run, if_neg (Nat.not_le.mpr h)]
  dsimp only
  rw [if_neg hidle, if_pos (List.isEmpty_iff.mpr hbytes)]

/-- A turn whose bytes are refused. -/
theorem run_refused (h : total < loop.size) (hidle : ¬ turn.idle)
    (hbytes : (loop.read turn total).bytes ≠ []) (turns : List (Turn β χ)) (lastProgress : ℕ)
    {after : σ} {error : ε}
    (hconsume : loop.consume turn.context (loop.read turn total).bytes state =
      (after, .error error)) :
    loop.run (turn::turns) total lastProgress state =
      ⟨after, total, [loop.read turn total], [(loop.read turn total).bytes], .refused error⟩ := by
  rw [Loop.run, if_neg (Nat.not_le.mpr h)]
  dsimp only
  rw [if_neg hidle, if_neg (by rwa [List.isEmpty_iff]), hconsume]

/-- A turn whose bytes are taken. -/
theorem run_taken (h : total < loop.size) (hidle : ¬ turn.idle)
    (hbytes : (loop.read turn total).bytes ≠ []) (turns : List (Turn β χ)) (lastProgress : ℕ)
    {after : σ} (hconsume : loop.consume turn.context (loop.read turn total).bytes state =
      (after, .ok ())) :
    loop.run (turn::turns) total lastProgress state =
      (loop.run turns (total + (loop.read turn total).bytes.length) (turn.clock % 2^32)
        after).after (loop.read turn total) := by
  rw [Loop.run, if_neg (Nat.not_le.mpr h)]
  dsimp only
  rw [if_neg hidle, if_neg (by rwa [List.isEmpty_iff]), hconsume, Outcome.after]

/-- The read of a turn fits. -/
theorem fits_read (h : total < loop.size) (turn : Turn β χ) :
    Fits loop total (loop.read turn total) := by
  refine ⟨rfl, ?_, ?_, List.length_take_le _ _⟩
  · dsimp only [Loop.read]
    omega
  · dsimp only [Loop.read]
    omega

/-- The first turn of a loop that has not everything yet. -/
theorem run_cons (h : total < loop.size) (turn : Turn β χ) (turns : List (Turn β χ))
    (lastProgress : ℕ) (state : σ) :
    Turned loop turn turns total lastProgress state
      (loop.run (turn::turns) total lastProgress state) := by
  by_cases hidle : turn.idle
  · rw [run_idle h hidle]
    split
    · exact .stops (.inl rfl) rfl
    · split
      · exact .stops (.inr rfl) rfl
      · rename_i helapsed
        exact .waits hidle (Nat.not_lt.mp helapsed) rfl
  · by_cases hbytes : (loop.read turn total).bytes = []
    · exact .fails (fits_read h turn) hbytes (run_short h hidle hbytes turns lastProgress state)
    · cases hconsume : loop.consume turn.context (loop.read turn total).bytes state with
      | mk after answer =>
        cases answer with
        | error error =>
          exact .refuses (fits_read h turn) hconsume
            (run_refused h hidle hbytes turns lastProgress hconsume)
        | ok _ =>
          exact .takes (fits_read h turn) hbytes hconsume rfl
            (run_taken h hidle hbytes turns lastProgress hconsume)

/-! ### The loop ends -/

/-- While the loop waits, the time since the last progress grows with the clock. -/
theorem elapsed_step {next : Turn β χ} (hlast : lastProgress < 2^32)
    (hroom : turn.elapsed lastProgress + maxStep < 2^32)
    (hstep : turn.clock + 1 ≤ next.clock ∧ next.clock ≤ turn.clock + maxStep) :
    turn.elapsed lastProgress + 1 ≤ next.elapsed lastProgress := by
  unfold Turn.elapsed at hroom ⊢
  omega

/-- The loop does not run out of enough turns. The induction is on the turns; `slack` is
the number of turns after which the next read has to come or the time is over, and every
byte that is still missing is worth the turns of a full wait. -/
theorem ending_of_enough (hpaced : Paced maxStep turns) (hwrap : loop.timeout + maxStep < 2^32)
    (hlast : lastProgress < 2^32) (htotal : total < loop.size) {slack : ℕ} (hslack : 1 ≤ slack)
    (hfirst : ∀ turn ∈ turns.head?, turn.idle →
      loop.timeout + 2 ≤ slack + turn.elapsed lastProgress)
    (hlength : (loop.size - total - 1) * (loop.timeout + 2) + slack ≤ turns.length) :
    (loop.run turns total lastProgress state).ending ≠ .waiting := by
  induction turns generalizing total lastProgress state slack with
  | nil =>
    rw [List.length_nil] at hlength
    omega
  | cons turn turns ih =>
    rw [List.length_cons] at hlength
    have hrest : Paced maxStep turns := List.IsChain.tail hpaced
    cases run_cons htotal turn turns lastProgress state with
    | waits hidle helapsed h =>
      rw [h]
      have hbound := hfirst turn rfl hidle
      refine ih hrest hlast htotal (show 1 ≤ slack - 1 by omega) ?_ (by omega)
      intro next hnext hnextIdle
      obtain ⟨later, rfl⟩ := List.head?_eq_some_iff.mp hnext
      have hstep := (List.isChain_cons_cons.mp hpaced).1 hidle hnextIdle
      have helapsedNext := elapsed_step hlast (by omega) hstep
      omega
    | stops hending h =>
      rw [h]
      rcases hending with rfl | rfl
      · intro hwaiting
        cases hwaiting
      · intro hwaiting
        cases hwaiting
    | fails hread hbytes h =>
      rw [h]
      intro hwaiting
      cases hwaiting
    | refuses hread hconsume h =>
      rw [h]
      intro hwaiting
      cases hwaiting
    | @takes read after rest hread hbytes hconsume hrun h =>
      rw [h, hrun]
      have hpos : 1 ≤ read.bytes.length := List.length_pos_iff.mpr hbytes
      have hclock : turn.clock % 2^32 < 2^32 := Nat.mod_lt _ (by decide)
      by_cases hcomplete : loop.size ≤ total + read.bytes.length
      · rw [run_of_le hcomplete]
        intro hwaiting
        cases hwaiting
      · have hmissing :
            loop.size - (total + read.bytes.length) - 1 + 1 ≤ loop.size - total - 1 := by
          omega
        have hturns : (loop.size - (total + read.bytes.length) - 1) * (loop.timeout + 2) +
            (loop.timeout + 2) ≤ turns.length := by
          calc (loop.size - (total + read.bytes.length) - 1) * (loop.timeout + 2) +
                (loop.timeout + 2)
              = (loop.size - (total + read.bytes.length) - 1 + 1) * (loop.timeout + 2) :=
                (Nat.succ_mul _ _).symm
            _ ≤ (loop.size - total - 1) * (loop.timeout + 2) :=
                Nat.mul_le_mul_right _ hmissing
            _ ≤ turns.length := by omega
        exact ih hrest hclock (Nat.not_le.mp hcomplete) (by omega)
          (fun _ _ _ => Nat.le_add_right _ _) hturns

/-- From its beginning, the loop ends within the turns of one wait for every byte that is
declared. -/
theorem run_ends (hpaced : Paced maxStep turns) (hwrap : loop.timeout + maxStep < 2^32)
    (hlast : lastProgress < 2^32) (hlength : loop.size * (loop.timeout + 2) ≤ turns.length) :
    (loop.run turns 0 lastProgress state).ending ≠ .waiting := by
  by_cases hsize : loop.size ≤ 0
  · rw [run_of_le hsize]
    intro hwaiting
    cases hwaiting
  · have hpos : loop.size - 0 - 1 + 1 = loop.size := by omega
    refine ending_of_enough hpaced hwrap hlast (Nat.not_le.mp hsize)
      (show 1 ≤ loop.timeout + 2 by omega) (fun _ _ _ => Nat.le_add_right _ _) ?_
    calc (loop.size - 0 - 1) * (loop.timeout + 2) + (loop.timeout + 2)
        = (loop.size - 0 - 1 + 1) * (loop.timeout + 2) := (Nat.succ_mul _ _).symm
      _ = loop.size * (loop.timeout + 2) := by rw [hpos]
      _ ≤ turns.length := hlength

/-! ### What it reads -/

/-- Each read begins where the bytes of the one before it end. -/
def Contiguous : ℕ → List (Read β) → Prop
  | _, [] => True
  | offset, read::reads => read.offset = offset ∧ Contiguous (offset + read.bytes.length) reads

/-- The bytes that the stream has delivered, in the order of the reads. -/
def delivered (reads : List (Read β)) : List β := reads.flatMap (·.bytes)

/-- What the loop has read and handed on when it stops at whichever point. -/
structure Exact (loop : Loop β ε σ χ) (start : ℕ) (out : Outcome β ε σ) : Prop where
  /-- Every read is asked for within what is declared, and within a chunk. -/
  inside : ∀ read ∈ out.reads, read.offset + read.wanted ≤ loop.size ∧
    read.wanted ≤ loop.chunk ∧ read.bytes.length ≤ read.wanted
  /-- Each read begins where the one before has ended. -/
  contiguous : Contiguous start out.reads
  /-- Nothing of what was delivered is left out, moved or handed on twice. -/
  handed : out.handed.flatten = delivered out.reads
  /-- No more than what is declared. -/
  length_le : start + (delivered out.reads).length ≤ loop.size
  /-- Unless the last bytes were refused, what was taken is what was delivered. -/
  total : (∃ error, out.ending = .refused error) ∨
    out.total = start + (delivered out.reads).length
  /-- Only a complete loop has taken everything. -/
  complete : out.ending = .complete ↔ out.total = loop.size

/-- The bytes of a read fit. -/
theorem Fits.total_le {read : Read β} (h : Fits loop total read) :
    total + read.bytes.length ≤ loop.size := by
  have hoffset := h.offset
  have hinside := h.inside
  have hlength := h.length
  omega

/-- A loop that stops before it reads. -/
theorem exact_of_nil {ending : Ending ε} (htotal : total ≤ loop.size)
    (hending : ending = .complete ↔ total = loop.size) :
    Exact loop total ⟨state, total, [], [], ending⟩ where
  inside := fun read hread => by cases hread
  contiguous := trivial
  handed := rfl
  length_le := htotal
  total := .inr rfl
  complete := hending

/-- What is delivered by a read and the others. -/
theorem delivered_cons (read : Read β) (reads : List (Read β)) :
    delivered (read::reads) = read.bytes ++ delivered reads :=
  List.flatMap_cons

/-- A read in front of the others. -/
theorem exact_cons {read : Read β} {rest : Outcome β ε σ} (hread : Fits loop total read)
    (hrest : Exact loop (total + read.bytes.length) rest) :
    Exact loop total (rest.after read) where
  inside := by
    intro other hother
    rcases List.mem_cons.mp hother with rfl | htail
    · exact ⟨hread.inside, hread.chunk, hread.length⟩
    · exact hrest.inside other htail
  contiguous := ⟨hread.offset, hrest.contiguous⟩
  handed := by
    unfold Outcome.after
    dsimp only
    rw [List.flatten_cons, hrest.handed, delivered_cons]
  length_le := by
    unfold Outcome.after
    rw [delivered_cons, List.length_append, ← Nat.add_assoc]
    exact hrest.length_le
  total := by
    rcases hrest.total with hrefused | htotal
    · exact .inl hrefused
    · right
      unfold Outcome.after
      dsimp only
      rw [htotal, delivered_cons, List.length_append, Nat.add_assoc]
  complete := hrest.complete

/-- A read after which the loop stops, with nothing delivered or with a refusal. -/
theorem exact_of_last {read : Read β} {handed : List (List β)} {ending : Ending ε}
    (hless : total < loop.size) (hread : Fits loop total read) (hending : ending ≠ .complete)
    (hhanded : handed.flatten = read.bytes)
    (hbytes : (∃ error, ending = .refused error) ∨ read.bytes = []) :
    Exact loop total ⟨state, total, [read], handed, ending⟩ where
  inside := by
    intro other hother
    rw [List.mem_singleton.mp hother]
    exact ⟨hread.inside, hread.chunk, hread.length⟩
  contiguous := ⟨hread.offset, trivial⟩
  handed := by
    dsimp only
    rw [hhanded, delivered, List.flatMap_singleton]
  length_le := by
    rw [delivered, List.flatMap_singleton]
    exact hread.total_le
  total := by
    rcases hbytes with hrefused | hempty
    · exact .inl hrefused
    · right
      rw [delivered, List.flatMap_singleton, hempty]
      rfl
  complete := by
    constructor
    · intro hcomplete
      exact absurd hcomplete hending
    · intro hall
      dsimp only at hall
      omega

/-- Every outcome of the loop, by induction on its turns. -/
theorem run_exact (loop : Loop β ε σ χ) (turns : List (Turn β χ)) (lastProgress : ℕ) (state : σ)
    (htotal : total ≤ loop.size) : Exact loop total (loop.run turns total lastProgress state) := by
  induction turns generalizing total lastProgress state with
  | nil =>
    obtain hless | heq := Nat.lt_or_eq_of_le htotal
    · rw [run_nil hless]
      refine exact_of_nil htotal ⟨fun hcomplete => ?_, fun hall => by omega⟩
      cases hcomplete
    · rw [run_of_le (Nat.le_of_eq heq.symm)]
      exact exact_of_nil htotal ⟨fun _ => heq, fun _ => rfl⟩
  | cons turn turns ih =>
    obtain hless | heq := Nat.lt_or_eq_of_le htotal
    · cases run_cons hless turn turns lastProgress state with
      | waits hidle helapsed h =>
        rw [h]
        exact ih lastProgress state htotal
      | @stops ending hending h =>
        rw [h]
        refine exact_of_nil htotal ⟨fun hcomplete => ?_, fun htotal => by omega⟩
        rcases hending with rfl | rfl
        · cases hcomplete
        · cases hcomplete
      | fails hread hbytes h =>
        rw [h]
        exact exact_of_last hless hread (by simp) (by rw [hbytes]; rfl) (.inr hbytes)
      | refuses hread hconsume h =>
        rw [h]
        exact exact_of_last hless hread (by simp) (by simp) (.inl ⟨_, rfl⟩)
      | takes hread hbytes hconsume hrun h =>
        rw [h, hrun]
        exact exact_cons hread (ih _ _ hread.total_le)
    · rw [run_of_le (Nat.le_of_eq heq.symm)]
      exact exact_of_nil htotal ⟨fun _ => heq, fun _ => rfl⟩

/-! ### Where the bytes go -/

/-- Bytes that are written to a place in a buffer. -/
def store (buffer : List β) (offset : ℕ) (bytes : List β) : List β :=
  buffer.take offset ++ bytes ++ buffer.drop (offset + bytes.length)

/-- The buffer after the reads. -/
def fill (buffer : List β) (reads : List (Read β)) : List β :=
  reads.foldl (fun buffer read => store buffer read.offset read.bytes) buffer

/-- The buffer keeps its length, and is right up to the end of what was written. -/
theorem store_spec (buffer : List β) {offset : ℕ} {bytes : List β}
    (h : offset + bytes.length ≤ buffer.length) :
    (store buffer offset bytes).length = buffer.length ∧
      (store buffer offset bytes).take (offset + bytes.length) = buffer.take offset ++ bytes := by
  have htake : (buffer.take offset).length = offset := by
    rw [List.length_take]
    omega
  constructor
  · rw [store, List.length_append, List.length_append, htake, List.length_drop]
    omega
  · rw [store]
    exact List.take_left' (by rw [List.length_append, htake])

/-- Contiguous reads fill the front of a buffer with the bytes that were delivered. -/
theorem take_fill {reads : List (Read β)} {buffer : List β} {offset : ℕ}
    (hreads : Contiguous offset reads) (hroom : offset + (delivered reads).length ≤ buffer.length) :
    (fill buffer reads).take (offset + (delivered reads).length) =
      buffer.take offset ++ delivered reads := by
  induction reads generalizing buffer offset with
  | nil =>
    rw [delivered, List.flatMap_nil, List.append_nil]
    rfl
  | cons read reads ih =>
    obtain ⟨hoffset, hrest⟩ := hreads
    rw [delivered_cons, List.length_append] at hroom ⊢
    have hread : offset + read.bytes.length ≤ buffer.length := by omega
    obtain ⟨hlength, hfront⟩ := store_spec buffer hread
    have hstored := @ih (store buffer offset read.bytes) _ hrest (by omega)
    rw [fill, List.foldl_cons, hoffset, ← fill, ← Nat.add_assoc, hstored, hfront, List.append_assoc]

/-! ### What the consumer keeps -/

/-- A consumer that keeps all of what it takes, and at most the front of what it
refuses. -/
structure Keeps (loop : Loop β ε σ χ) (kept : σ → List β) : Prop where
  /-- What is taken is kept. -/
  taken : ∀ {context bytes state after}, bytes ≠ [] →
    loop.consume context bytes state = (after, .ok ()) → kept after = kept state ++ bytes
  /-- Of what is refused a front is kept. -/
  refused : ∀ {context bytes state after error},
    loop.consume context bytes state = (after, .error error) →
      ∃ part, part <+: bytes ∧ kept after = kept state ++ part

/-- The loop has ended with a refusal of its consumer. -/
def Refused (loop : Loop β ε σ χ) (out : Outcome β ε σ) : Prop :=
  ∃ context bytes state error, out.ending = .refused error ∧
    loop.consume context bytes state = (out.state, .error error)

/-- What is kept when the loop stops. -/
structure Kept (loop : Loop β ε σ χ) (kept : σ → List β) (state : σ) (out : Outcome β ε σ) :
    Prop where
  /-- A front of what was handed on is kept. -/
  front : ∃ part, part <+: out.handed.flatten ∧ kept out.state = kept state ++ part
  /-- All of it, unless the last of it was refused. -/
  all : Refused loop out ∨ kept out.state = kept state ++ out.handed.flatten

variable {kept : σ → List β}

/-- A loop that stops without handing anything on. -/
theorem kept_of_nil (loop : Loop β ε σ χ) (kept : σ → List β) (state : σ) (total : ℕ)
    (reads : List (Read β)) (ending : Ending ε) :
    Kept loop kept state ⟨state, total, reads, [], ending⟩ where
  front := ⟨[], List.nil_prefix, (List.append_nil _).symm⟩
  all := .inr (List.append_nil _).symm

/-- What was taken stands in front of what the rest of the loop keeps. -/
theorem kept_cons {read : Read β} {rest : Outcome β ε σ} {after : σ}
    (htaken : kept after = kept state ++ read.bytes) (hrest : Kept loop kept after rest) :
    Kept loop kept state (rest.after read) where
  front := by
    obtain ⟨part, hpart, hkept⟩ := hrest.front
    refine ⟨read.bytes ++ part, ?_, ?_⟩
    · unfold Outcome.after
      rw [List.flatten_cons]
      exact (List.prefix_append_right_inj _).mpr hpart
    · rw [← List.append_assoc, ← htaken]
      exact hkept
  all := by
    rcases hrest.all with hrefused | hkept
    · exact .inl hrefused
    · right
      unfold Outcome.after
      rw [List.flatten_cons, ← List.append_assoc, ← htaken]
      exact hkept

/-- Every outcome of the loop, by induction on its turns. -/
theorem run_keeps (hkeeps : Keeps loop kept) (turns : List (Turn β χ)) (total lastProgress : ℕ)
    (state : σ) : Kept loop kept state (loop.run turns total lastProgress state) := by
  induction turns generalizing total lastProgress state with
  | nil =>
    by_cases hcomplete : loop.size ≤ total
    · rw [run_of_le hcomplete]
      exact kept_of_nil ..
    · rw [run_nil (Nat.not_le.mp hcomplete)]
      exact kept_of_nil ..
  | cons turn turns ih =>
    by_cases hcomplete : loop.size ≤ total
    · rw [run_of_le hcomplete]
      exact kept_of_nil ..
    · cases run_cons (Nat.not_le.mp hcomplete) turn turns lastProgress state with
      | waits hidle helapsed h =>
        rw [h]
        exact ih total lastProgress state
      | stops hending h =>
        rw [h]
        exact kept_of_nil ..
      | fails hread hbytes h =>
        rw [h]
        exact kept_of_nil ..
      | refuses hread hconsume h =>
        rw [h]
        obtain ⟨part, hpart, hkept⟩ := hkeeps.refused hconsume
        refine ⟨⟨part, ?_, hkept⟩, .inl ⟨_, _, _, _, rfl, hconsume⟩⟩
        rw [List.flatten_singleton]
        exact hpart
      | takes hread hbytes hconsume hrun h =>
        rw [h, hrun]
        exact kept_cons (hkeeps.taken hbytes hconsume) (ih _ _ _)

/-- A consumer that only collects. -/
def collect (size chunk timeout : ℕ) : Loop β ε (List β) χ where
  size := size
  chunk := chunk
  timeout := timeout
  consume _ bytes collected := (collected ++ bytes, .ok ())

/-- The collecting loop keeps what it takes. -/
theorem collect_keeps (size chunk timeout : ℕ) :
    Keeps (collect size chunk timeout : Loop β ε (List β) χ) id where
  taken := by
    intro context bytes state after hbytes hconsume
    cases hconsume
    rfl
  refused := by
    intro context bytes state after error hconsume
    cases hconsume

/-- A collector has what it had and what was delivered. -/
theorem collect_run {size : ℕ} (chunk timeout : ℕ) (turns : List (Turn β χ)) {total : ℕ}
    (lastProgress : ℕ) (collected : List β) (htotal : total ≤ size) :
    ((collect size chunk timeout : Loop β ε (List β) χ).run turns total lastProgress
      collected).state = collected ++ delivered ((collect size chunk timeout :
        Loop β ε (List β) χ).run turns total lastProgress collected).reads := by
  have hexact := run_exact (collect size chunk timeout : Loop β ε (List β) χ) turns lastProgress
    collected htotal
  rcases (run_keeps (collect_keeps size chunk timeout) turns total lastProgress collected).all with
    ⟨_, _, _, _, _, hrefused⟩ | hkept
  · exact absurd (congrArg Prod.snd hrefused) (by simp [collect])
  · rw [← hexact.handed]
    exact hkept

/-! ### A stream that delivers -/

/-- The turns deliver these bytes to a loop that has taken all the others: each of them
waits in time, or reads the next of the bytes, until none is left. What the consumer meets
when it is handed a part is ready for it. -/
inductive Delivers (loop : Loop β ε σ χ) (ready : χ → Prop) :
    List (Turn β χ) → (lastProgress : ℕ) → List β → Prop
  /-- Nothing is left; further turns are not taken. -/
  | done (turns : List (Turn β χ)) (lastProgress : ℕ) : Delivers loop ready turns lastProgress []
  /-- Nothing is available yet. -/
  | waits {turn : Turn β χ} {turns : List (Turn β χ)} {lastProgress : ℕ} {rest : List β}
      (hidle : turn.idle) (hconnected : turn.connected = true)
      (helapsed : turn.elapsed lastProgress ≤ loop.timeout)
      (hrest : Delivers loop ready turns lastProgress rest) :
      Delivers loop ready (turn::turns) lastProgress rest
  /-- The next part is read. -/
  | reads {turn : Turn β χ} {turns : List (Turn β χ)} {lastProgress : ℕ} {part rest : List β}
      (hidle : ¬turn.idle) (hready : ready turn.context) (hpart : part ≠ [])
      (hread : (loop.read turn (loop.size - (part ++ rest).length)).bytes = part)
      (hrest : Delivers loop ready turns (turn.clock % 2^32) rest) :
      Delivers loop ready (turn::turns) lastProgress (part ++ rest)

/-- A consumer that is ready takes every part of at most a chunk that fits, and then has it
behind what it had. -/
def Consumes (loop : Loop β ε σ χ) (ready : χ → Prop) (holds : List β → σ → Prop) : Prop :=
  ∀ context taken part state, ready context → holds taken state → part ≠ [] →
    part.length ≤ loop.chunk → (taken ++ part).length ≤ loop.size →
    ∃ after, loop.consume context part state = (after, .ok ()) ∧ holds (taken ++ part) after

/-- A loop is complete when everything has been delivered, and its consumer has all of it. -/
theorem run_delivers {ready : χ → Prop} {holds : List β → σ → Prop}
    (hconsumes : Consumes loop ready holds) (taken : List β) (state : σ) {rest : List β}
    (h : Delivers loop ready turns lastProgress rest) (hstate : holds taken state)
    (hsize : (taken ++ rest).length = loop.size) :
    (loop.run turns taken.length lastProgress state).ending = .complete ∧
      (loop.run turns taken.length lastProgress state).total = loop.size ∧
      holds (taken ++ rest) (loop.run turns taken.length lastProgress state).state := by
  induction h generalizing taken state with
  | done turns lastProgress =>
    rw [List.append_nil] at hsize ⊢
    rw [run_of_le (Nat.le_of_eq hsize.symm)]
    exact ⟨rfl, hsize, hstate⟩
  | @waits turn turns lastProgress rest hidle hconnected helapsed hrest ih =>
    by_cases hless : taken.length < loop.size
    · have hnext := ih _ _ hstate hsize
      rw [run_idle hless hidle, if_neg (by simp [hconnected]), if_neg (Nat.not_lt.mpr helapsed)]
      exact hnext
    · have hnone : rest = [] := by
        rw [List.length_append] at hsize
        exact List.length_eq_zero_iff.mp (by omega)
      rw [run_of_le (Nat.not_lt.mp hless), hnone, List.append_nil]
      rw [hnone, List.append_nil] at hsize
      exact ⟨rfl, hsize, hstate⟩
  | @reads turn turns lastProgress part rest hidle hready hpart hread hrest ih =>
    have hlength : 0 < part.length := List.length_pos_iff.mpr hpart
    have hoffset : loop.size - (part ++ rest).length = taken.length := by
      rw [List.length_append] at hsize
      omega
    rw [hoffset] at hread
    rw [← List.append_assoc] at hsize ⊢
    have hless : taken.length < loop.size := by
      simp only [List.length_append] at hsize
      omega
    have hfits := fits_read hless turn
    have hchunk : part.length ≤ loop.chunk := by
      rw [← hread]
      exact hfits.length.trans hfits.chunk
    have hroom : (taken ++ part).length ≤ loop.size := by
      rw [List.length_append] at hsize
      omega
    obtain ⟨after, hconsume, hafter⟩ :=
      hconsumes _ _ _ _ hready hstate hpart hchunk hroom
    rw [← hread] at hconsume
    have hbytes : (loop.read turn taken.length).bytes ≠ [] := by
      rw [hread]
      exact hpart
    have hnext := ih _ _ hafter hsize
    rw [run_taken hless hidle hbytes turns lastProgress hconsume, hread, ← List.length_append]
    exact hnext

/-- A collector takes every part. -/
theorem collect_consumes (size chunk timeout : ℕ) (ready : χ → Prop) :
    Consumes (collect size chunk timeout : Loop β ε (List β) χ) ready fun taken state =>
      state = taken := by
  intro context taken part state _ hstate _ _ _
  refine ⟨taken ++ part, ?_, rfl⟩
  rw [hstate]
  rfl

end ProjEsp32.PolledReads
