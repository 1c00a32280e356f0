/-
**What the scan for redirections reports, and no more.**

The scan is compared with the bytes of a code. A call or a self-destruction is reported at a boundary
(`Boundary`) if one of the eight boundaries before it pushes an address, and with the nearest such
address (`AimsAt`). A made-up address is reported where a whole push of it occurs first (`FirstMadeUp`).

* `nearestPush?_eq_some`, `mem_signals`: what the backward search and the walk over the instructions
  find, as places in a list;
* `exists_aimsAt`: of several pushes within reach a call aims at the nearest;
* `target?_of_aimsAt`, `aimsAt_of_target?`: the backward search finds what a call aims at;
* `mem_firstPlaces`: of several places with one address the first is kept;
* `signals_exact`: the calls, self-destructions and made-up addresses reported are those of the code,
  each once and in the order of the code.
-/

import ContractRisk.Detector.HiddenRedirection
import ContractRisk.Proofs.Bytecode.Boundaries
import ContractRisk.Proofs.Bytecode.Canonical

namespace ContractRisk

/-! ### Searching backwards -/

/-- **The nearest push of an address** has none behind it, and lies within the window. -/
theorem nearestPush?_eq_some {before : List Instruction} {window : Nat} {push : Instruction} :
    nearestPush? before window = some push ↔
      push.isAddressPush = true ∧ ∃ near far, before = near ++ push :: far ∧ near.length < window ∧
        ∀ instruction ∈ near, instruction.isAddressPush = false := by
  unfold nearestPush?
  rw [List.find?_eq_some_iff_append]
  refine and_congr_right fun _ => ?_
  constructor
  · rintro ⟨near, rest, inWindow, others⟩
    have length : (near ++ push :: rest).length ≤ window := by
      rw [← inWindow]
      exact List.length_take_le _ _
    refine ⟨near, rest ++ before.drop window, ?_, ?_, fun instruction member => ?_⟩
    · rw [← List.cons_append, ← List.append_assoc, ← inWindow, List.take_append_drop]
    · simp only [List.length_append, List.length_cons] at length
      omega
    · simpa using others instruction member
  · rintro ⟨near, far, rfl, inside, others⟩
    obtain ⟨more, rfl⟩ := Nat.exists_eq_add_of_lt inside
    refine ⟨near, far.take more, ?_, fun instruction member => ?_⟩
    · rw [Nat.add_assoc, List.take_length_add_append, List.take_succ_cons]
    · simpa using others instruction member

namespace Instruction

variable {instruction : Instruction} {address : String}

/-- An instruction pushes an address if it has the opcode for it and all twenty bytes. -/
theorem pushedAddress?_eq_some : instruction.pushedAddress? = some address ↔
    instruction.opcode = 0x73 ∧ instruction.immediate.length = 20 ∧
      address = Bytecode.write instruction.immediate := by
  unfold pushedAddress? isAddressPush
  simp only [Bool.and_eq_true, decide_eq_true_eq, Option.ite_none_right_eq_some, Option.some.injEq,
    and_assoc, eq_comm (a := address)]

/-- Another opcode pushes no address. -/
theorem pushedAddress?_other (other : instruction.opcode ≠ 0x73) :
    instruction.pushedAddress? = none := by
  unfold pushedAddress? isAddressPush
  simp [other]

end Instruction

namespace Detector.HiddenRedirection

variable {code : List UInt8} {before instructions : List Instruction} {instruction : Instruction}
  {position : Nat} {name address : String}

/-! ### Signals -/

/-- The opcodes of calls, with their names. -/
def callOpcodes : List (UInt8 × String) :=
  [(0xf1, "CALL"), (0xf2, "CALLCODE"), (0xf4, "DELEGATECALL"), (0xfa, "STATICCALL")]

theorem callName?_eq_some {opcode : UInt8} :
    callName? opcode = some name ↔ (opcode, name) ∈ callOpcodes := by
  unfold callName? callOpcodes
  simp only [List.mem_cons, Prod.mk.injEq, List.not_mem_nil, or_false]
  grind

/-- **What an instruction signals behind others**, which `before` holds in reverse: a call and a
self-destruction with the address pushed before them, a whole push with an address that looks made up,
and a jump with nothing more than a push in front of it. -/
inductive Signals (before : List Instruction) (instruction : Instruction) : Signal → Prop
  | call {name address : String} (opcode : (instruction.opcode, name) ∈ callOpcodes)
      (aims : target? before = some address) :
      Signals before instruction (.call instruction.position name address)
  | destruct {address : String} (opcode : instruction.opcode = 0xff)
      (aims : target? before = some address) :
      Signals before instruction (.destruct instruction.position address)
  | literal {address : String} (push : instruction.pushedAddress? = some address)
      (madeUp : isMadeUp address = true) :
      Signals before instruction (.literal instruction.position address)
  | jump (opcode : instruction.opcode = 0x57) (behind : before.head?.any (·.isPush) = true) :
      Signals before instruction .jump

theorem signals_of_signalAt? {signal : Signal} (found : signalAt? before instruction = some signal) :
    Signals before instruction signal := by
  unfold signalAt? at found
  split at found
  · rename_i push
    obtain ⟨madeUp, same⟩ := Option.ite_none_right_eq_some.mp found
    cases same
    exact .literal push madeUp
  · split at found
    · rename_i called
      obtain ⟨address, aims, rfl⟩ := Option.map_eq_some_iff.mp found
      exact .call (callName?_eq_some.mp called) aims
    · split at found
      · rename_i opcode
        obtain ⟨address, aims, rfl⟩ := Option.map_eq_some_iff.mp found
        exact .destruct opcode aims
      · obtain ⟨jumps, same⟩ := Option.ite_none_right_eq_some.mp found
        cases same
        rw [Bool.and_eq_true, decide_eq_true_eq] at jumps
        exact .jump jumps.1 jumps.2

/-- No instruction that signals something else pushes an address, so each signal is found in its turn. -/
theorem Signals.signalAt? {signal : Signal} (signals : Signals before instruction signal) :
    HiddenRedirection.signalAt? before instruction = some signal := by
  unfold HiddenRedirection.signalAt?
  cases signals with
  | @call name address opcode aims =>
    have noPush : instruction.pushedAddress? = none := Instruction.pushedAddress?_other fun push => by
      rw [push] at opcode
      revert opcode
      simp [callOpcodes]
    rw [noPush, callName?_eq_some.mpr opcode, aims]
    rfl
  | @destruct address opcode aims =>
    have noPush : instruction.pushedAddress? = none := Instruction.pushedAddress?_other fun push => by
      cases push.symm.trans opcode
    rw [noPush, opcode, aims]
    rfl
  | @literal address push madeUp =>
    rw [push]
    exact if_pos madeUp
  | jump opcode behind =>
    have noPush : instruction.pushedAddress? = none := Instruction.pushedAddress?_other fun push => by
      cases push.symm.trans opcode
    rw [noPush, opcode, behind]
    rfl

theorem signalAt?_eq_some {signal : Signal} :
    signalAt? before instruction = some signal ↔ Signals before instruction signal :=
  ⟨signals_of_signalAt?, Signals.signalAt?⟩

/-- **The signals of a code come from its instructions**, each with those before it. -/
theorem mem_signalsFrom {signal : Signal} : signal ∈ signalsFrom before instructions ↔
    ∃ passed instruction rest, instructions = passed ++ instruction :: rest ∧
      Signals (passed.reverse ++ before) instruction signal := by
  induction instructions generalizing before with
  | nil => simp [signalsFrom]
  | cons first instructions ih =>
    rw [signalsFrom, List.mem_append, Option.mem_toList, signalAt?_eq_some, ih]
    constructor
    · rintro (here | ⟨passed, instruction, rest, rfl, later⟩)
      · exact ⟨[], first, instructions, rfl, here⟩
      · refine ⟨first :: passed, instruction, rest, rfl, ?_⟩
        rwa [List.reverse_cons, List.append_assoc]
    · rintro ⟨passed, instruction, rest, split, signals⟩
      cases passed with
      | nil =>
        obtain ⟨rfl, rfl⟩ := List.cons.inj split
        exact .inl signals
      | cons head passed =>
        obtain ⟨rfl, rfl⟩ := List.cons.inj split
        refine .inr ⟨passed, instruction, rest, rfl, ?_⟩
        rwa [List.reverse_cons, List.append_assoc] at signals

theorem mem_signals {signal : Signal} : signal ∈ signals code ↔
    ∃ passed instruction rest, sweep code = passed ++ instruction :: rest ∧
      Signals passed.reverse instruction signal := by
  unfold signals
  rw [mem_signalsFrom]
  simp only [List.append_nil]

theorem mem_calls {found : List Signal} {place : Place} :
    (name, place) ∈ calls found ↔ .call place.position name place.address ∈ found := by
  unfold calls
  rw [List.mem_filterMap]
  constructor
  · rintro ⟨signal, member, read⟩
    cases signal <;> cases read
    exact member
  · exact fun member => ⟨_, member, rfl⟩

theorem mem_destructs {found : List Signal} {place : Place} :
    place ∈ destructs found ↔ .destruct place.position place.address ∈ found := by
  unfold destructs
  rw [List.mem_filterMap]
  constructor
  · rintro ⟨signal, member, read⟩
    cases signal <;> cases read
    exact member
  · exact fun member => ⟨_, member, rfl⟩

/-! ### Targets -/

/-- **What a call or self-destruction at an offset aims at**: the twenty bytes behind the nearest
boundary that pushes an address, among the eight boundaries before the offset. -/
def AimsAt (code : List UInt8) (offset : Nat) (address : String) : Prop :=
  ∃ source, Boundary code source ∧ code[source]? = some 0x73 ∧
    (∃ steps, 1 ≤ steps ∧ steps ≤ 8 ∧ Leads code steps source offset) ∧
    (∀ between, Boundary code between → source < between → between < offset →
      code[between]? ≠ some 0x73) ∧
    address = Bytecode.write ((code.drop (source + 1)).take 20)

/-- Whether an address is pushed at one of the eight boundaries before an offset. -/
def PushedBefore (code : List UInt8) (offset : Nat) : Prop :=
  ∃ source steps, Boundary code source ∧ code[source]? = some 0x73 ∧ 1 ≤ steps ∧ steps ≤ 8 ∧
    Leads code steps source offset

/-- **Of the pushes among the eight boundaries one is the nearest.** -/
theorem exists_aimsAt {offset : Nat} (pushed : PushedBefore code offset) :
    ∃ address, AimsAt code offset address := by
  obtain ⟨source, steps, boundary, pushes, forward, window, leads⟩ := pushed
  -- a push in between is fewer steps away
  induction steps using Nat.strongRecOn generalizing source with
  | ind steps ih =>
    by_cases nearer : ∃ between, Boundary code between ∧ source < between ∧ between < offset ∧
        code[between]? = some 0x73
    · obtain ⟨between, boundary', behind, ahead, pushes'⟩ := nearer
      obtain ⟨first, toBetween⟩ := boundary.leads boundary' behind
      obtain ⟨second, toOffset⟩ := boundary'.leads (boundary.after leads) ahead
      have same := leads.count_unique (toBetween.trans toOffset)
      exact ih (second + 1) (by omega) between boundary' pushes' (by omega) (by omega) toOffset
    · refine ⟨_, source, boundary, pushes, ⟨steps, forward, window, leads⟩, ?_, rfl⟩
      exact fun between boundary' behind ahead pushes' =>
        nearer ⟨between, boundary', behind, ahead, pushes'⟩

/-- In a code, an instruction with the opcode of an address push pushes an address if another one
follows. -/
theorem isAddressPush_of_leads {count target : Nat} (stands : instruction.StandsIn code)
    (opcode : instruction.opcode = 0x73) (leads : Leads code (count + 1) instruction.position target)
    (inside : target < code.length) : instruction.isAddressPush = true := by
  have length := stands.length_immediate leads inside
  rw [opcode, show Instruction.width 0x73 = 20 by decide] at length
  unfold Instruction.isAddressPush
  rw [opcode, length]
  rfl

/-- **What the backward search finds is what the call aims at.** -/
theorem aimsAt_of_target? {passed rest : List Instruction}
    (split : sweep code = passed ++ instruction :: rest)
    (found : target? passed.reverse = some address) : AimsAt code instruction.position address := by
  obtain ⟨push, nearest, pushed⟩ := Option.bind_eq_some_iff.mp found
  obtain ⟨-, near, far, reversed, inside, others⟩ := nearestPush?_eq_some.mp nearest
  have passed_eq : passed = far.reverse ++ push :: near.reverse := by
    rw [← List.reverse_reverse passed, reversed]
    simp
  have whole : sweep code = far.reverse ++ push :: (near.reverse ++ instruction :: rest) := by
    rw [split, passed_eq, List.append_assoc, List.cons_append]
  obtain ⟨toPush, stands, begins⟩ := leads_of_sweep
    (show sweepFrom 0 (code.drop 0) = _ from whole)
  obtain ⟨toCall, standsCall, -⟩ := leads_of_sweep
    (show _ = (push :: near.reverse) ++ instruction :: rest from begins)
  obtain ⟨opcode, -, written⟩ := Instruction.pushedAddress?_eq_some.mp pushed
  have window : (push :: near.reverse).length ≤ 8 := by
    rw [List.length_cons, List.length_reverse]
    exact inside
  refine ⟨push.position, ⟨_, toPush⟩, opcode ▸ stands.opcode,
    ⟨_, Nat.succ_pos _, window, toCall⟩, ?_, ?_⟩
  · -- a push of an address in between would have been found first
    intro between boundary behind ahead pushes
    have stands' : (⟨between, 0x73, (code.drop (between + 1)).take (Instruction.width 0x73)⟩ :
        Instruction).StandsIn code := ⟨pushes, rfl⟩
    have inNear := (mem_between whole).mpr ⟨boundary, stands', behind, ahead⟩
    obtain ⟨count, leads⟩ := boundary.leads ⟨_, toPush.trans toCall⟩ ahead
    have complete := isAddressPush_of_leads stands' rfl leads
      (List.getElem?_eq_some_iff.mp standsCall.opcode).1
    rw [others _ (List.mem_reverse.mp inNear)] at complete
    cases complete
  · rw [written, stands.immediate, opcode]
    rfl

/-- **What a call aims at is found by the backward search.** -/
theorem target?_of_aimsAt (stands : instruction.StandsIn code)
    (aims : AimsAt code instruction.position address) :
    ∃ passed rest, sweep code = passed ++ instruction :: rest ∧
      target? passed.reverse = some address := by
  obtain ⟨source, boundary, pushes, ⟨steps, forward, window, leads⟩, nearest, rfl⟩ := aims
  obtain ⟨more, rfl⟩ := Nat.exists_eq_add_of_le' forward
  obtain ⟨push, push_eq⟩ : ∃ push : Instruction, push =
      ⟨source, 0x73, (code.drop (source + 1)).take (Instruction.width 0x73)⟩ := ⟨_, rfl⟩
  have atSource : push.position = source := by rw [push_eq]
  have opcode : push.opcode = 0x73 := by rw [push_eq]
  have standsPush : push.StandsIn code := by
    rw [push_eq]
    exact ⟨pushes, rfl⟩
  rw [← atSource] at boundary leads nearest
  have complete : push.isAddressPush = true := isAddressPush_of_leads standsPush opcode leads
    (List.getElem?_eq_some_iff.mp stands.opcode).1
  obtain ⟨far, near, rest, whole, length⟩ := sweep_of_leads boundary standsPush stands leads
  have others : ∀ other ∈ near.reverse, other.isAddressPush = false := by
    intro other member
    obtain ⟨boundary', stands', behind, ahead⟩ := (mem_between whole).mp (List.mem_reverse.mp member)
    have noPush : other.opcode ≠ 0x73 := fun same =>
      nearest _ boundary' behind ahead (same ▸ stands'.opcode)
    simp [Instruction.isAddressPush, noPush]
  refine ⟨far ++ push :: near, rest, by simpa using whole, ?_⟩
  refine Option.bind_eq_some_iff.mpr ⟨push, nearestPush?_eq_some.mpr
    ⟨complete, near.reverse, far.reverse, by simp, ?_, others⟩, ?_⟩
  · rw [List.length_reverse, length]
    exact window
  · unfold Instruction.pushedAddress?
    rw [if_pos complete, push_eq]
    rfl

/-- **An instruction signals its target exactly if it stands in the code and aims at it.** -/
theorem exists_target?_iff {opcode : UInt8} :
    (∃ passed instruction rest, sweep code = passed ++ instruction :: rest ∧
      instruction.position = position ∧ instruction.opcode = opcode ∧
      target? passed.reverse = some address) ↔
    Boundary code position ∧ code[position]? = some opcode ∧ AimsAt code position address := by
  constructor
  · rintro ⟨passed, instruction, rest, split, rfl, rfl, found⟩
    have member : instruction ∈ sweep code := by
      rw [split]
      exact List.mem_append_right _ List.mem_cons_self
    obtain ⟨boundary, stands⟩ := mem_sweep.mp member
    exact ⟨boundary, stands.opcode, aimsAt_of_target? split found⟩
  · rintro ⟨-, here, aims⟩
    have stands : (⟨position, opcode, (code.drop (position + 1)).take (Instruction.width opcode)⟩ :
        Instruction).StandsIn code := ⟨here, rfl⟩
    obtain ⟨passed, rest, split, found⟩ := target?_of_aimsAt stands aims
    exact ⟨passed, _, rest, split, rfl, rfl, found⟩

theorem mem_calls_signals {place : Place} : (name, place) ∈ calls (signals code) ↔
    ∃ opcode, (opcode, name) ∈ callOpcodes ∧ Boundary code place.position ∧
      code[place.position]? = some opcode ∧ AimsAt code place.position place.address := by
  rw [mem_calls, mem_signals]
  simp only [← exists_target?_iff]
  constructor
  · rintro ⟨passed, instruction, rest, split, signals⟩
    obtain ⟨position, address⟩ := place
    cases signals with
    | call opcode aims =>
      exact ⟨_, opcode, passed, instruction, rest, split, rfl, rfl, aims⟩
  · rintro ⟨opcode, call, passed, instruction, rest, split, atPlace, rfl, found⟩
    refine ⟨passed, instruction, rest, split, ?_⟩
    rw [← atPlace]
    exact .call call found

theorem mem_destructs_signals {place : Place} : place ∈ destructs (signals code) ↔
    Boundary code place.position ∧ code[place.position]? = some 0xff ∧
      AimsAt code place.position place.address := by
  rw [mem_destructs, mem_signals, ← exists_target?_iff]
  constructor
  · rintro ⟨passed, instruction, rest, split, signals⟩
    obtain ⟨position, address⟩ := place
    cases signals with
    | destruct opcode aims => exact ⟨passed, instruction, rest, split, rfl, opcode, aims⟩
  · rintro ⟨passed, instruction, rest, split, atPlace, opcode, found⟩
    refine ⟨passed, instruction, rest, split, ?_⟩
    rw [← atPlace]
    exact .destruct opcode found

/-! ### Made-up addresses -/

/-- A whole push of twenty bytes at an offset. -/
structure PushesAt (code : List UInt8) (offset : Nat) (bytes : List UInt8) : Prop where
  boundary : Boundary code offset
  opcode : code[offset]? = some 0x73
  whole : offset + 20 < code.length
  bytes : bytes = (code.drop (offset + 1)).take 20

/-- Whether the digits of bytes contain one of the markers. -/
def LooksMadeUp (bytes : List UInt8) : Prop :=
  ∃ marker ∈ markers, marker.toList <:+: Bytecode.digits bytes

/-- **A made-up address at the first whole push of it.** -/
def FirstMadeUp (code : List UInt8) (place : Place) : Prop :=
  ∃ bytes, PushesAt code place.position bytes ∧ LooksMadeUp bytes ∧
    place.address = Bytecode.write bytes ∧
    ∀ earlier < place.position, ¬ PushesAt code earlier bytes

/-- The prefix of an address has no part in a marker. -/
theorem isMadeUp_write {bytes : List UInt8} :
    isMadeUp (Bytecode.write bytes) = true ↔ LooksMadeUp bytes := by
  have digitsOnly : ∀ marker ∈ markers, 'x' ∉ marker.toList ∧ 2 ≤ marker.toList.length := by decide
  unfold isMadeUp LooksMadeUp mentions Bytecode.write
  rw [List.any_eq_true]
  refine exists_congr fun marker => and_congr_right fun member => ?_
  obtain ⟨noPrefix, long⟩ := digitsOnly marker member
  rw [occursIn_iff, String.toList_ofList, List.infix_cons_iff, List.infix_cons_iff]
  constructor
  · rintro (⟨rest, split⟩ | ⟨rest, split⟩ | inside)
    · match marked : marker.toList with
      | [] | [_] => simp [marked] at long
      | first :: second :: more =>
        rw [marked, List.cons_append, List.cons_append, List.cons.injEq, List.cons.injEq] at split
        simp [marked, split.2.1] at noPrefix
    · match marked : marker.toList with
      | [] => simp [marked] at long
      | first :: more =>
        rw [marked, List.cons_append, List.cons.injEq] at split
        simp [marked, split.1] at noPrefix
    · exact inside
  · exact fun inside => .inr (.inr inside)

/-- The literals among signals, at all their places. -/
def literalPlaces (found : List Signal) : List Place :=
  found.filterMap fun
    | .literal position address => some ⟨position, address⟩
    | _ => none

theorem literals_eq (found : List Signal) : literals found = firstPlaces [] (literalPlaces found) :=
  rfl

theorem mem_literalPlaces {found : List Signal} {place : Place} :
    place ∈ literalPlaces found ↔ .literal place.position place.address ∈ found := by
  unfold literalPlaces
  rw [List.mem_filterMap]
  constructor
  · rintro ⟨signal, member, read⟩
    cases signal <;> cases read
    exact member
  · exact fun member => ⟨_, member, rfl⟩

theorem write_injective {bytes others : List UInt8}
    (same : Bytecode.write bytes = Bytecode.write others) : bytes = others := by
  have chars := String.ofList_injective same
  simp only [List.cons.injEq, true_and] at chars
  rw [← Bytecode.ofDigits_digits bytes, chars, Bytecode.ofDigits_digits]

/-- **Made-up addresses are signalled at every whole push of them.** -/
theorem literal_mem_signals : .literal position address ∈ signals code ↔
    ∃ bytes, PushesAt code position bytes ∧ LooksMadeUp bytes ∧ address = Bytecode.write bytes := by
  rw [mem_signals]
  constructor
  · rintro ⟨passed, instruction, rest, split, signals⟩
    cases signals with
    | literal push madeUp =>
      obtain ⟨boundary, stands⟩ := mem_sweep.mp (split ▸ List.mem_append_right _ List.mem_cons_self)
      obtain ⟨opcode, length, rfl⟩ := Instruction.pushedAddress?_eq_some.mp push
      have bytes := stands.immediate
      rw [opcode, show Instruction.width 0x73 = 20 by decide] at bytes
      refine ⟨instruction.immediate, ⟨boundary, opcode ▸ stands.opcode, ?_, bytes⟩,
        isMadeUp_write.mp madeUp, rfl⟩
      rw [bytes, List.length_take, List.length_drop] at length
      omega
  · rintro ⟨bytes, pushes, madeUp, rfl⟩
    have stands : (⟨position, 0x73, bytes⟩ : Instruction).StandsIn code :=
      ⟨pushes.opcode, pushes.bytes⟩
    obtain ⟨passed, rest, split⟩ := List.append_of_mem (mem_sweep.mpr ⟨pushes.boundary, stands⟩)
    refine ⟨passed, _, rest, split, .literal (Instruction.pushedAddress?_eq_some.mpr ⟨rfl, ?_, rfl⟩)
      (isMadeUp_write.mpr madeUp)⟩
    rw [pushes.bytes, List.length_take, List.length_drop]
    have := pushes.whole
    omega

/-! ### First places -/

section Places

variable {seen : List String} {places : List Place} {place : Place}

/-- **Of several places with one address the first is kept**, and none whose address was seen before. -/
theorem mem_firstPlaces (sorted : places.Pairwise fun before after => before.position < after.position) :
    place ∈ firstPlaces seen places ↔ place ∈ places ∧ place.address ∉ seen ∧
      ∀ other ∈ places, other.position < place.position → other.address ≠ place.address := by
  induction places generalizing seen with
  | nil => simp [firstPlaces]
  | cons first rest ih =>
    obtain ⟨least, sorted⟩ := List.pairwise_cons.mp sorted
    rw [firstPlaces]
    by_cases known : seen.contains first.address = true
    · rw [if_pos known, ih sorted]
      rw [List.contains_iff_mem] at known
      grind
    · rw [if_neg known, List.mem_cons, ih sorted]
      rw [List.contains_iff_mem] at known
      grind

theorem firstPlaces_sublist (seen : List String) (places : List Place) :
    (firstPlaces seen places).Sublist places := by
  induction places generalizing seen with
  | nil => exact .slnil
  | cons first rest ih =>
    rw [firstPlaces]
    split
    · exact (ih seen).cons _
    · exact (ih _).cons_cons _

end Places

/-! ### Order -/

/-- The position that a signal has; a jump is only counted. -/
def Signal.position? : Signal → Option Nat
  | .call position _ _ | .destruct position _ | .literal position _ => some position
  | .jump => none

/-- An instruction signals at its own position. -/
theorem Signals.placed {signal : Signal} (signals : Signals before instruction signal)
    {position : Nat} (placed : signal.position? = some position) : position = instruction.position := by
  cases signals <;> cases placed <;> rfl

theorem signalsFrom_positions (before instructions : List Instruction) :
    ((signalsFrom before instructions).filterMap Signal.position?).Sublist
      (instructions.map (·.position)) := by
  induction instructions generalizing before with
  | nil => exact .slnil
  | cons first rest ih =>
    rw [signalsFrom, List.filterMap_append, List.map_cons]
    cases here : signalAt? before first with
    | none => exact (ih _).cons _
    | some signal =>
      cases placed : signal.position? with
      | none =>
        rw [Option.toList_some, List.filterMap_cons_none placed]
        exact (ih _).cons _
      | some position =>
        rw [Option.toList_some, List.filterMap_cons_some placed,
          (signalAt?_eq_some.mp here).placed placed]
        exact (ih _).cons_cons _

/-- **Whatever is read off the signals of a code with its position is in the order of the code.** -/
theorem signals_sorted {A : Type} {read : Signal → Option A} (position : A → Nat)
    (own : ∀ signal item, read signal = some item → signal.position? = some (position item))
    (code : List UInt8) :
    ((signals code).filterMap read).Pairwise fun before after => position before < position after := by
  have placed : ((signals code).filterMap Signal.position?).Pairwise (· < ·) :=
    ((List.pairwise_map.mpr (sweep_sorted code)).sublist (signalsFrom_positions [] (sweep code)))
  rw [List.pairwise_filterMap] at placed ⊢
  refine placed.imp fun {first second} apart item found item' found' => ?_
  exact apart _ (own first item found) _ (own second item' found')

theorem calls_sorted (code : List UInt8) : (calls (signals code)).Pairwise
    fun before after => before.2.position < after.2.position := by
  refine signals_sorted (fun call : String × Place => call.2.position) ?_ code
  intro signal item read
  cases signal <;> cases read
  rfl

theorem destructs_sorted (code : List UInt8) : (destructs (signals code)).Pairwise
    fun before after => before.position < after.position := by
  refine signals_sorted Place.position ?_ code
  intro signal item read
  cases signal <;> cases read
  rfl

theorem literalPlaces_sorted (code : List UInt8) : (literalPlaces (signals code)).Pairwise
    fun before after => before.position < after.position := by
  refine signals_sorted Place.position ?_ code
  intro signal item read
  cases signal <;> cases read
  rfl

theorem mem_literals_signals {place : Place} :
    place ∈ literals (signals code) ↔ FirstMadeUp code place := by
  rw [literals_eq, mem_firstPlaces (literalPlaces_sorted code)]
  simp only [mem_literalPlaces, literal_mem_signals]
  constructor
  · rintro ⟨⟨bytes, pushes, madeUp, written⟩, -, first⟩
    refine ⟨bytes, pushes, madeUp, written, fun earlier before pushes' => ?_⟩
    exact first ⟨earlier, place.address⟩ ⟨bytes, pushes', madeUp, written⟩ before rfl
  · rintro ⟨bytes, pushes, madeUp, written, first⟩
    refine ⟨⟨bytes, pushes, madeUp, written⟩, List.not_mem_nil, ?_⟩
    rintro other ⟨bytes', pushes', -, written'⟩ before same
    have bytes_eq : bytes' = bytes := write_injective (by rw [← written', same, written])
    exact first _ before (bytes_eq ▸ pushes')

/-- No made-up address is reported at two places. -/
theorem literals_distinct (code : List UInt8) :
    ((literals (signals code)).map (·.address)).Nodup := by
  have sorted := (literalPlaces_sorted code).sublist (firstPlaces_sublist [] _)
  rw [← literals_eq] at sorted
  refine List.pairwise_map.mpr (sorted.imp_of_mem fun {first second} inFirst inSecond before same => ?_)
  obtain ⟨bytes, pushes, -, written, -⟩ := mem_literals_signals.mp inFirst
  obtain ⟨bytes', -, -, written', first⟩ := mem_literals_signals.mp inSecond
  have bytes_eq : bytes = bytes' := write_injective (by rw [← written, same, written'])
  exact first _ before (bytes_eq ▸ pushes)

/-- Every made-up address that is pushed is reported, at this push or at an earlier one. -/
theorem literal_reported {offset : Nat} {bytes : List UInt8} (pushes : PushesAt code offset bytes)
    (madeUp : LooksMadeUp bytes) :
    ∃ place ∈ literals (signals code), place.position ≤ offset ∧
      place.address = Bytecode.write bytes := by
  induction offset using Nat.strongRecOn with
  | ind offset ih =>
    by_cases again : ∃ earlier < offset, PushesAt code earlier bytes
    · obtain ⟨earlier, before, pushes'⟩ := again
      obtain ⟨place, member, upTo, written⟩ := ih earlier before pushes'
      exact ⟨place, member, by omega, written⟩
    · refine ⟨⟨offset, Bytecode.write bytes⟩, mem_literals_signals.mpr
        ⟨bytes, pushes, madeUp, rfl, fun earlier before pushes' => ?_⟩, Nat.le_refl _, rfl⟩
      exact again ⟨earlier, before, pushes'⟩

/-! ### The report -/

/-- **The report of a code**: what is found in it is what stands in its bytes. -/
structure Reports (code : List UInt8) (found : List Signal) : Prop where
  /-- Calls are the boundaries with the opcode of a call that aim at an address. -/
  call : ∀ name place, (name, place) ∈ calls found ↔
    ∃ opcode, (opcode, name) ∈ callOpcodes ∧ Boundary code place.position ∧
      code[place.position]? = some opcode ∧ AimsAt code place.position place.address
  /-- None that has a push of an address among the eight boundaries before it is left out. -/
  everyCall : ∀ opcode name offset, (opcode, name) ∈ callOpcodes → Boundary code offset →
    code[offset]? = some opcode → PushedBefore code offset →
      ∃ address, (name, ⟨offset, address⟩) ∈ calls found
  /-- Self-destructions are the boundaries with their opcode that aim at an address. -/
  destruct : ∀ place, place ∈ destructs found ↔
    Boundary code place.position ∧ code[place.position]? = some 0xff ∧
      AimsAt code place.position place.address
  /-- None of these is left out either. -/
  everyDestruct : ∀ offset, Boundary code offset → code[offset]? = some 0xff →
    PushedBefore code offset → ∃ address, ⟨offset, address⟩ ∈ destructs found
  /-- Made-up addresses are reported at the first whole push of them. -/
  literal : ∀ place, place ∈ literals found ↔ FirstMadeUp code place
  /-- No made-up address that is pushed is left out. -/
  everyLiteral : ∀ offset bytes, PushesAt code offset bytes → LooksMadeUp bytes →
    ∃ place ∈ literals found, place.position ≤ offset ∧ place.address = Bytecode.write bytes
  /-- No made-up address is reported twice. -/
  distinct : ((literals found).map (·.address)).Nodup
  /-- Each offset is reported once, and in the order of the code, as a call, -/
  callsInOrder : (calls found).Pairwise fun before after => before.2.position < after.2.position
  /-- as a self-destruction, -/
  destructsInOrder : (destructs found).Pairwise fun before after => before.position < after.position
  /-- and as a made-up address. -/
  literalsInOrder : (literals found).Pairwise fun before after => before.position < after.position

/-- **The scan reports what stands in the code, and nothing else**, for every byte string. -/
theorem signals_exact (code : List UInt8) : Reports code (signals code) where
  call _ _ := mem_calls_signals
  everyCall opcode _ _ call boundary here pushed := by
    obtain ⟨address, aims⟩ := exists_aimsAt pushed
    exact ⟨address, mem_calls_signals.mpr ⟨opcode, call, boundary, here, aims⟩⟩
  destruct _ := mem_destructs_signals
  everyDestruct _ boundary here pushed := by
    obtain ⟨address, aims⟩ := exists_aimsAt pushed
    exact ⟨address, mem_destructs_signals.mpr ⟨boundary, here, aims⟩⟩
  literal _ := mem_literals_signals
  everyLiteral _ _ := literal_reported
  distinct := literals_distinct code
  callsInOrder := calls_sorted code
  destructsInOrder := destructs_sorted code
  literalsInOrder := (literalPlaces_sorted code).sublist (firstPlaces_sublist [] _)

end Detector.HiddenRedirection

end ContractRisk
