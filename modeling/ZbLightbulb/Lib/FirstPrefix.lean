/-
A table searched from its start for an entry whose key is a prefix of the input.
If no key is a prefix of another, the order of the entries does not matter.
-/
import Mathlib.Data.List.Basic

namespace FirstPrefix

universe u v

variable {A : Type u} {B : Type v} (key : A → List B)

/-- No key is a prefix of another. -/
def PrefixFree (table : List A) : Prop :=
  table.Pairwise fun a b => ¬ key a <+: key b ∧ ¬ key b <+: key a

def search [DecidableEq B] (table : List A) (input : List B) : Option A :=
  table.find? fun a => decide (key a <+: input)

variable {key} {table : List A}

theorem PrefixFree.perm (hfree : PrefixFree key table) {other : List A}
    (hperm : table.Perm other) : PrefixFree key other :=
  (hperm.pairwise_iff fun h => ⟨h.2, h.1⟩).mp hfree

variable [DecidableEq B] {input : List B} {a : A}

/-- The search finds the first entry with such a key. -/
theorem search_eq_some_iff : search key table input = some a ↔
    key a <+: input ∧ ∃ before after, table = before ++ a :: after ∧
      ∀ b ∈ before, ¬ key b <+: input := by
  simp only [search, List.find?_eq_some_iff_append, decide_eq_true_iff,
    Bool.not_eq_true', decide_eq_false_iff_not]

theorem search_eq_none_iff :
    search key table input = none ↔ ∀ a ∈ table, ¬ key a <+: input := by
  simp only [search, List.find?_eq_none, decide_eq_true_iff]

/-- In a prefix-free table at most one entry can be found. -/
theorem PrefixFree.search_eq_some_iff (hfree : PrefixFree key table) :
    search key table input = some a ↔ a ∈ table ∧ key a <+: input := by
  constructor
  · intro hfind
    rcases FirstPrefix.search_eq_some_iff.mp hfind with
      ⟨hfits, before, after, rfl, -⟩
    exact ⟨by simp, hfits⟩
  · intro hin
    rcases hin with ⟨hmem, hfits⟩
    rcases List.append_of_mem hmem with ⟨before, after, rfl⟩
    refine FirstPrefix.search_eq_some_iff.mpr
      ⟨hfits, before, after, rfl, ?_⟩
    intro b hb hother
    have hapart := (List.pairwise_append.mp hfree).2.2 b hb a
      List.mem_cons_self
    rcases List.prefix_or_prefix_of_prefix hother hfits with hle | hge
    · exact hapart.1 hle
    · exact hapart.2 hge

/-- The order of a prefix-free table does not matter. -/
theorem PrefixFree.search_perm (hfree : PrefixFree key table) {other : List A}
    (hperm : table.Perm other) :
    search key other input = search key table input := by
  apply Option.ext
  intro a
  rw [hfree.search_eq_some_iff, (hfree.perm hperm).search_eq_some_iff,
    hperm.mem_iff]

/-- Every key of a prefix-free table, with anything after it, finds its own
entry. -/
theorem PrefixFree.search_own (hfree : PrefixFree key table) (hmem : a ∈ table)
    (suffix : List B) : search key table (key a ++ suffix) = some a :=
  hfree.search_eq_some_iff.mpr ⟨hmem, List.prefix_append _ _⟩

end FirstPrefix
