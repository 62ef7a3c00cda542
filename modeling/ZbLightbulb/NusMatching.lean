/-
The matching of `nus_command_handler` for any command table and any message: it
finds the first command that is a prefix of the message, and looks at no byte
after its end.
-/
import ZbLightbulb.Lib.FirstPrefix
import ZbLightbulb.Nus

namespace ZbLightbulb

/-- The bytes of a message. -/
def NusMessage.bytes (msg : NusMessage) : List UInt8 :=
  (List.range msg.length.toNat).map msg.data

/-- The offsets at which `strncmp` reads its second string. -/
def strncmpReads (s1 s2 : Nat → UInt8) (i : Nat) : Nat → List Nat
  | 0 => []
  | n + 1 =>
      i :: if s1 i ≠ s2 i then []
        else if s1 i = 0 then []
        else strncmpReads s1 s2 (i + 1) n

/-- The offsets of the message that `nus_command_handler` reads: the length is
tested before `strncmp` is called, and the loop ends with the first match. -/
def nusCommandHandlerReads {α : Type} (msg : NusMessage) :
    List (NusEntry α) → List Nat
  | [] => []
  | p :: rest =>
      (if p.cmd.strlen ≤ msg.length.toNat then
        strncmpReads p.cmd.byteAt msg.data 0 p.cmd.strlen
      else []) ++
        if p.matches msg then [] else nusCommandHandlerReads msg rest

/-- Before a terminator `strncmp` is zero exactly if the bytes agree. -/
theorem strncmp_eq_zero_iff {s1 s2 : Nat → UInt8} {i n : Nat}
    (hnul : ∀ j, j < n → s1 (i + j) ≠ 0) :
    strncmp s1 s2 i n = 0 ↔ ∀ j, j < n → s1 (i + j) = s2 (i + j) := by
  induction n generalizing i with
  | zero => simp [strncmp]
  | succ n ih =>
      have hzero := hnul 0 (Nat.succ_pos n)
      rw [Nat.add_zero] at hzero
      have hshift : ∀ j, i + 1 + j = i + (j + 1) := by omega
      rw [strncmp]
      by_cases heq : s1 i = s2 i
      · rw [if_neg (not_not.mpr heq), if_neg hzero, ih]
        · constructor
          · intro hrest j hj
            cases j with
            | zero => exact heq
            | succ j =>
                rw [← hshift]
                exact hrest j (Nat.lt_of_succ_lt_succ hj)
          · intro hall j hj
            rw [hshift]
            exact hall (j + 1) (Nat.succ_lt_succ hj)
        · intro j hj
          rw [hshift]
          exact hnul (j + 1) (Nat.succ_lt_succ hj)
      · rw [if_pos heq]
        constructor
        · intro hdiff
          have hbyte : (s1 i).toNat = (s2 i).toNat := by omega
          exact absurd (UInt8.toNat_inj.mp hbyte) heq
        · exact fun hall => absurd (hall 0 (Nat.succ_pos n)) heq

theorem CString.byteAt_eq (s : CString) {i : Nat} (hi : i < s.bytes.length) :
    s.byteAt i = s.bytes[i] := by
  rw [byteAt, List.getD_eq_getElem?_getD, List.getElem?_eq_getElem hi]
  rfl

theorem CString.byteAt_ne_zero (s : CString) {i : Nat} (hi : i < s.strlen) :
    s.byteAt i ≠ 0 := by
  rw [s.byteAt_eq hi]
  exact s.nulFree _ (List.getElem_mem hi)

/-- The test of the loop asks for a prefix of the message. -/
theorem NusEntry.matches_iff {α : Type} (p : NusEntry α) (msg : NusMessage) :
    p.matches msg = true ↔ p.cmd.bytes <+: msg.bytes := by
  have hnul : ∀ j, j < p.cmd.strlen → p.cmd.byteAt (0 + j) ≠ 0 := by
    intro j hj
    rw [Nat.zero_add]
    exact p.cmd.byteAt_ne_zero hj
  have hlength : msg.bytes.length = msg.length.toNat := by
    simp [NusMessage.bytes]
  have hget : ∀ j (hj : j < msg.bytes.length), msg.bytes[j] = msg.data j := by
    intro j hj
    simp [NusMessage.bytes]
  simp only [NusEntry.matches, Bool.and_eq_true, decide_eq_true_iff, beq_iff_eq,
    strncmp_eq_zero_iff hnul, Nat.zero_add, List.prefix_iff_getElem, hlength,
    hget]
  constructor
  · intro hmatch
    refine ⟨hmatch.1, ?_⟩
    intro j hj
    rw [← p.cmd.byteAt_eq hj]
    exact hmatch.2 j hj
  · intro hprefix
    rcases hprefix with ⟨hle, hbytes⟩
    refine ⟨hle, ?_⟩
    intro j hj
    rw [p.cmd.byteAt_eq hj]
    exact hbytes j hj

/-- The handler searches its table for the first prefix of the message. -/
theorem nusCommandHandler_eq_search {α : Type} (table : List (NusEntry α))
    (msg : NusMessage) : nusCommandHandler table msg =
      (FirstPrefix.search (fun p => p.cmd.bytes) table msg.bytes).map
        NusEntry.work := by
  have hsame : (fun p : NusEntry α => p.matches msg) =
      fun p => decide (p.cmd.bytes <+: msg.bytes) := by
    funext p
    rw [Bool.eq_iff_iff, p.matches_iff, decide_eq_true_iff]
  rw [nusCommandHandler, hsame]
  rfl

/-! ### What is read -/

theorem lt_of_mem_strncmpReads {s1 s2 : Nat → UInt8} {i n j : Nat}
    (hj : j ∈ strncmpReads s1 s2 i n) : j < i + n := by
  induction n generalizing i with
  | zero => contradiction
  | succ n ih =>
      rw [strncmpReads, List.mem_cons] at hj
      rcases hj with rfl | hj
      · omega
      · split_ifs at hj
        · contradiction
        · contradiction
        · have hlt := ih hj
          omega

/-- `strncmp` depends only on the bytes it reads. -/
theorem strncmp_congr {s1 s2 s2' : Nat → UInt8} {i n : Nat}
    (h : ∀ j ∈ strncmpReads s1 s2 i n, s2 j = s2' j) :
    strncmp s1 s2 i n = strncmp s1 s2' i n := by
  induction n generalizing i with
  | zero => rfl
  | succ n ih =>
      have hi : s2 i = s2' i := h i List.mem_cons_self
      rw [strncmp, strncmp, ← hi]
      by_cases hdiffer : s1 i ≠ s2 i
      · rw [if_pos hdiffer, if_pos hdiffer]
      · rw [if_neg hdiffer, if_neg hdiffer]
        by_cases hzero : s1 i = 0
        · rw [if_pos hzero, if_pos hzero]
        · rw [if_neg hzero, if_neg hzero]
          apply ih
          intro j hj
          apply h
          rw [strncmpReads, if_neg hdiffer, if_neg hzero]
          exact List.mem_cons_of_mem i hj

section Handler

variable {α : Type} {msg : NusMessage}

theorem lt_length_of_mem_reads {table : List (NusEntry α)} {i : Nat}
    (hi : i ∈ nusCommandHandlerReads msg table) : i < msg.length.toNat := by
  induction table with
  | nil => contradiction
  | cons p rest ih =>
      rw [nusCommandHandlerReads, List.mem_append] at hi
      rcases hi with hi | hi
      · split_ifs at hi with hle
        · have hlt := lt_of_mem_strncmpReads hi
          omega
        · contradiction
      · split_ifs at hi
        · contradiction
        · exact ih hi

theorem NusEntry.matches_congr {p : NusEntry α} {msg' : NusMessage}
    (hlength : msg.length = msg'.length)
    (h : p.cmd.strlen ≤ msg.length.toNat →
      ∀ i ∈ strncmpReads p.cmd.byteAt msg.data 0 p.cmd.strlen,
        msg.data i = msg'.data i) : p.matches msg = p.matches msg' := by
  rw [NusEntry.matches, NusEntry.matches, ← hlength]
  by_cases hle : p.cmd.strlen ≤ msg.length.toNat
  · rw [strncmp_congr (h hle)]
  · rw [decide_eq_false hle, Bool.false_and, Bool.false_and]

/-- The handler depends only on the length and the bytes it reads. -/
theorem nusCommandHandler_congr {table : List (NusEntry α)} {msg' : NusMessage}
    (hlength : msg.length = msg'.length)
    (h : ∀ i ∈ nusCommandHandlerReads msg table, msg.data i = msg'.data i) :
    nusCommandHandler table msg = nusCommandHandler table msg' := by
  induction table with
  | nil => rfl
  | cons p rest ih =>
      have hmatch : p.matches msg = p.matches msg' := by
        apply NusEntry.matches_congr hlength
        intro hle i hi
        apply h
        rw [nusCommandHandlerReads, if_pos hle]
        exact List.mem_append_left _ hi
      simp only [nusCommandHandler, List.find?_cons, ← hmatch]
      cases hfound : p.matches msg with
      | true => rfl
      | false =>
          apply ih
          intro i hi
          apply h
          rw [nusCommandHandlerReads, hfound]
          exact List.mem_append_right _ hi

/-! ### The whole handler -/

/-- The handler submits the work item of the first entry whose command is a
prefix of the message, and nothing if there is none. -/
structure MatchesFirst (table : List (NusEntry α)) (msg : NusMessage) :
    Prop where
  found : ∀ before p after, table = before ++ p :: after →
    p.cmd.bytes <+: msg.bytes →
      (∀ q ∈ before, ¬ q.cmd.bytes <+: msg.bytes) →
        nusCommandHandler table msg = some p.work
  unrecognized : (∀ p ∈ table, ¬ p.cmd.bytes <+: msg.bytes) →
    nusCommandHandler table msg = none

/-- The handler reads no byte at or after the length, and its result depends on
no other byte. -/
structure StaysInside (table : List (NusEntry α)) (msg : NusMessage) :
    Prop where
  inside : ∀ i ∈ nusCommandHandlerReads msg table, i < msg.length.toNat
  depends : ∀ msg' : NusMessage, msg.length = msg'.length →
    (∀ i ∈ nusCommandHandlerReads msg table, msg.data i = msg'.data i) →
      nusCommandHandler table msg = nusCommandHandler table msg'

/-- The order of the entries does not matter, and every command, whatever
follows it, selects its own entry. -/
structure OrderFree (table : List (NusEntry α)) (msg : NusMessage) : Prop where
  permuted : ∀ other, table.Perm other →
    nusCommandHandler other msg = nusCommandHandler table msg
  own : ∀ p ∈ table, ∀ suffix, msg.bytes = p.cmd.bytes ++ suffix →
    nusCommandHandler table msg = some p.work

theorem matchesFirst (table : List (NusEntry α)) (msg : NusMessage) :
    MatchesFirst table msg := by
  constructor
  · intro before p after htable hfits hbefore
    have hfind : FirstPrefix.search (fun p => p.cmd.bytes) table msg.bytes =
        some p := FirstPrefix.search_eq_some_iff.mpr
      ⟨hfits, before, after, htable, hbefore⟩
    rw [nusCommandHandler_eq_search, hfind]
    rfl
  · intro hnone
    rw [nusCommandHandler_eq_search, FirstPrefix.search_eq_none_iff.mpr hnone]
    rfl

theorem orderFree {table : List (NusEntry α)}
    (hfree : FirstPrefix.PrefixFree (fun p => p.cmd.bytes) table)
    (msg : NusMessage) : OrderFree table msg := by
  constructor
  · intro other hperm
    rw [nusCommandHandler_eq_search, nusCommandHandler_eq_search,
      hfree.search_perm hperm]
  · intro p hp suffix hmsg
    rw [nusCommandHandler_eq_search, hmsg, hfree.search_own hp suffix]
    rfl

/-- For every table and every message the handler is a first-prefix match inside
the message; in a table without a command that is a prefix of another it does
not depend on the order. -/
theorem nusCommandHandler_firstPrefix (table : List (NusEntry α))
    (msg : NusMessage) :
    MatchesFirst table msg ∧ StaysInside table msg ∧
      (FirstPrefix.PrefixFree (fun p => p.cmd.bytes) table →
        OrderFree table msg) :=
  ⟨matchesFirst table msg,
    ⟨fun _ => lt_length_of_mem_reads, fun _ => nusCommandHandler_congr⟩,
    fun hfree => orderFree hfree msg⟩

end Handler

theorem commands_prefixFree :
    FirstPrefix.PrefixFree (fun p => p.cmd.bytes) commands := by
  unfold FirstPrefix.PrefixFree commands
  decide

/-- `t` with an end of line toggles, with the table of the program in either
order. -/
theorem nusCommandHandler_toggle_line :
    let msg : NusMessage := ⟨fun i => [0x74, 0x0D, 0x0A].getD i 0, 3⟩
    nusCommandHandler commands.reverse msg = nusCommandHandler commands msg ∧
      nusCommandHandler commands msg = some .toggleCmd := by
  intro msg
  have hfree := (nusCommandHandler_firstPrefix commands msg).2.2
    commands_prefixFree
  refine ⟨hfree.permuted _ (List.reverse_perm commands).symm, ?_⟩
  exact hfree.own ⟨commandToggle, .toggleCmd⟩ (by simp [commands]) [0x0D, 0x0A]
    (by decide)

end ZbLightbulb
