import Mathlib.Algebra.Order.Ring.Nat
import Mathlib.Data.List.DropRight
import Mathlib.Data.List.Chain
import Mathlib.Tactic.Common

/-!
The maximal runs of a sequence, and the sequence in which one separator stands for everything
between two of them.
-/

namespace Runs

variable {α : Type*} (keep : α → Bool) (separator : α)

def words (items : List α) : List (List α) :=
  (items.splitOnP fun item => !keep item).filter fun word => !word.isEmpty

/-- One separator for each run of items that are not kept; `inRun` tells that one was just given. -/
def collapse : (inRun : Bool) → List α → List α
  | _, [] => []
  | inRun, item :: rest =>
      if keep item then item :: collapse false rest
      else if inRun then collapse true rest
      else separator :: collapse true rest

@[simp]
theorem words_nil : words keep ([] : List α) = [] := by
  simp [words]

theorem words_skip {item : α} {rest : List α} (skipped : keep item = false) :
    words keep (item :: rest) = words keep rest := by
  simp [words, List.splitOnP_cons_eq_if_modifyHead, skipped]

theorem words_keep_skip {item next : α} {rest : List α} (kept : keep item = true)
    (skipped : keep next = false) :
    words keep (item :: next :: rest) = [item] :: words keep rest := by
  simp [words, List.splitOnP_cons_eq_if_modifyHead, kept, skipped]

theorem words_keep_nil {item : α} (kept : keep item = true) : words keep [item] = [[item]] := by
  simp [words, List.splitOnP_cons_eq_if_modifyHead, kept]

theorem words_keep_keep {item next : α} {rest : List α} (kept : keep item = true)
    (nextKept : keep next = true) :
    words keep (item :: next :: rest) = (words keep (next :: rest)).modifyHead (item :: ·) := by
  have nonempty := List.splitOnP_ne_nil (fun item => !keep item) rest
  simp only [words, List.splitOnP_cons_eq_if_modifyHead, kept, nextKept]
  cases split : rest.splitOnP fun item => !keep item with
  | nil => exact absurd split nonempty
  | cons first others => simp

theorem words_ne_nil {item : α} (rest : List α) (kept : keep item = true) :
    words keep (item :: rest) ≠ [] := by
  induction rest generalizing item with
  | nil => simp [words_keep_nil keep kept]
  | cons next rest ih =>
      by_cases nextKept : keep next = true
      · rw [words_keep_keep keep kept nextKept]
        cases split : words keep (next :: rest) with
        | nil => exact absurd split (ih nextKept)
        | cons first others => simp
      · rw [words_keep_skip keep kept (by simpa using nextKept)]
        simp

theorem word_ne_nil {items word : List α} (found : word ∈ words keep items) : word ≠ [] := by
  have kept := (List.mem_filter.mp found).2
  simpa using kept

theorem word_kept {items word : List α} (found : word ∈ words keep items) :
    ∀ item ∈ word, keep item = true := by
  have part := (List.mem_filter.mp found).1
  clear found
  induction items generalizing word with
  | nil =>
      simp only [List.splitOnP_nil, List.mem_singleton] at part
      simp [part]
  | cons item rest ih =>
      rw [List.splitOnP_cons_eq_if_modifyHead] at part
      by_cases kept : keep item = true
      · simp only [kept, Bool.not_true, Bool.false_eq_true, if_false] at part
        cases split : rest.splitOnP fun item => !keep item with
        | nil => exact absurd split (List.splitOnP_ne_nil _ rest)
        | cons first others =>
            rw [split] at ih
            rw [split, List.modifyHead_cons, List.mem_cons] at part
            cases part with
            | inl extended =>
                have firstKept := @ih first (by simp)
                simpa [extended, kept] using firstKept
            | inr other => exact ih (by simp [other])
      · simp only [kept, Bool.not_false, if_true, List.mem_cons] at part
        cases part with
        | inl empty => simp [empty]
        | inr other => exact ih other

/-! The normal form: the words with one separator between any two. -/

theorem intercalate_cons_ne_nil (word : List α) {rest : List (List α)} (nonempty : rest ≠ []) :
    [separator].intercalate (word :: rest) = word ++ separator :: [separator].intercalate rest := by
  cases rest with
  | nil => exact absurd rfl nonempty
  | cons next rest => simp

theorem intercalate_ne_nil {all : List (List α)} (nonempty : all ≠ [])
    (wordsNonempty : ∀ word ∈ all, word ≠ []) : [separator].intercalate all ≠ [] := by
  cases all with
  | nil => exact absurd rfl nonempty
  | cons word rest =>
      have first := wordsNonempty word (by simp)
      cases rest with
      | nil => simpa using first
      | cons next rest => simp

theorem intercalate_modifyHead (item : α) {all : List (List α)} (nonempty : all ≠ []) :
    [separator].intercalate (all.modifyHead (item :: ·)) = item :: [separator].intercalate all := by
  cases all with
  | nil => exact absurd rfl nonempty
  | cons word rest =>
      cases rest with
      | nil => simp
      | cons next rest => simp

variable {keep separator} in
theorem ne_separator (separates : keep separator = false) {item : α} (kept : keep item = true) :
    item ≠ separator := by
  intro equal
  rw [equal, separates] at kept
  exact absurd kept (by simp)

theorem rdropWhile_cons (drop : α → Bool) (item : α) (rest : List α) :
    (item :: rest).rdropWhile drop =
      if rest.rdropWhile drop = [] ∧ drop item = true then [] else item :: rest.rdropWhile drop := by
  induction rest using List.reverseRecOn with
  | nil => cases dropped : drop item <;> simp [List.rdropWhile, dropped]
  | append_singleton rest last ih =>
      by_cases dropped : drop last = true
      · rw [← List.cons_append, List.rdropWhile_concat_pos _ _ _ dropped,
          List.rdropWhile_concat_pos _ _ _ dropped, ih]
      · rw [← List.cons_append, List.rdropWhile_concat_neg _ _ _ dropped,
          List.rdropWhile_concat_neg _ _ _ dropped]
        simp

section Collapse

variable [DecidableEq α]

def strip (items : List α) : List α :=
  (items.dropWhile (· == separator)).rdropWhile (· == separator)

theorem dropWhile_collapse (separates : keep separator = false) (items : List α) (inRun : Bool) :
    (collapse keep separator inRun items).dropWhile (· == separator) =
      collapse keep separator true items := by
  induction items generalizing inRun with
  | nil => simp [collapse]
  | cons item rest ih =>
      by_cases kept : keep item = true
      · have different := ne_separator separates kept
        simp [collapse, kept, different]
      · cases inRun with
        | true => simpa [collapse, kept] using ih true
        | false => simpa [collapse, kept] using ih true

theorem rdropWhile_collapse (separates : keep separator = false) (items : List α) :
    (collapse keep separator true items).rdropWhile (· == separator) =
      [separator].intercalate (words keep items) := by
  induction items with
  | nil => simp [collapse]
  | cons item rest ih =>
      by_cases kept : keep item = true
      · have different := ne_separator separates kept
        have opened : collapse keep separator true (item :: rest) =
            item :: collapse keep separator false rest := by simp [collapse, kept]
        rw [opened, rdropWhile_cons, if_neg (by simp [different])]
        cases rest with
        | nil => simp [collapse, words_keep_nil keep kept]
        | cons next rest =>
            by_cases nextKept : keep next = true
            · have same : collapse keep separator false (next :: rest) =
                  collapse keep separator true (next :: rest) := by simp [collapse, nextKept]
              rw [same, ih, words_keep_keep keep kept nextKept,
                intercalate_modifyHead separator item (words_ne_nil keep rest nextKept)]
            · have skipped : keep next = false := by simpa using nextKept
              have closed : collapse keep separator false (next :: rest) =
                  separator :: collapse keep separator true rest := by simp [collapse, skipped]
              have rest_words : (collapse keep separator true rest).rdropWhile (· == separator) =
                  [separator].intercalate (words keep rest) := by
                rw [words_skip keep skipped] at ih
                simpa [collapse, skipped] using ih
              rw [closed, rdropWhile_cons, rest_words, words_keep_skip keep kept skipped]
              by_cases last : words keep rest = []
              · simp [last]
              · have more := intercalate_ne_nil separator last fun word found =>
                  word_ne_nil keep found
                rw [if_neg (by simp [more]), intercalate_cons_ne_nil separator _ last]
                simp
      · have skipped : keep item = false := by simpa using kept
        simpa [collapse, skipped, words_skip keep skipped] using ih

theorem strip_collapse (separates : keep separator = false) (items : List α) :
    strip separator (collapse keep separator false items) =
      [separator].intercalate (words keep items) := by
  rw [strip, dropWhile_collapse keep separator separates,
    rdropWhile_collapse keep separator separates]

end Collapse

structure Separated (items : List α) : Prop where
  alphabet : ∀ item ∈ items, keep item = true ∨ item = separator
  single : items.IsChain fun left right => ¬(left = separator ∧ right = separator)
  starts : items.head? ≠ some separator
  ends : items.getLast? ≠ some separator

theorem separated_of_kept (separates : keep separator = false) {word : List α}
    (kept : ∀ item ∈ word, keep item = true) : Separated keep separator word where
  alphabet := fun item found => .inl (kept item found)
  single := by
    rw [List.isChain_iff_getElem]
    intro index bound both
    exact ne_separator separates (kept _ (List.getElem_mem (by omega))) both.1
  starts := by
    intro first
    exact ne_separator separates (kept separator (List.mem_of_head? first)) rfl
  ends := by
    intro last
    exact ne_separator separates (kept separator (List.mem_of_getLast? last)) rfl

theorem Separated.cons_word (separates : keep separator = false) {word rest : List α}
    (nonempty : word ≠ []) (kept : ∀ item ∈ word, keep item = true) (restNonempty : rest ≠ [])
    (separated : Separated keep separator rest) :
    Separated keep separator (word ++ separator :: rest) where
  alphabet := by
    intro item found
    rw [List.mem_append, List.mem_cons] at found
    rcases found with inWord | atSeparator | inRest
    · exact .inl (kept item inWord)
    · exact .inr atSeparator
    · exact separated.alphabet item inRest
  single := by
    have wordSeparated := separated_of_kept keep separator separates kept
    rw [List.isChain_append]
    refine ⟨wordSeparated.single, ?_, ?_⟩
    · rw [List.isChain_cons]
      refine ⟨?_, separated.single⟩
      intro next first both
      rw [both.2] at first
      exact separated.starts first
    · intro last isLast next first both
      rw [both.1] at isLast
      exact wordSeparated.ends isLast
  starts := by
    rw [List.head?_append_of_ne_nil _ nonempty]
    exact (separated_of_kept keep separator separates kept).starts
  ends := by
    rw [List.getLast?_append_of_ne_nil _ (by simp)]
    rw [List.getLast?_cons_of_ne_nil restNonempty]
    exact separated.ends

theorem separated_intercalate (separates : keep separator = false) {all : List (List α)}
    (nonempty : ∀ word ∈ all, word ≠ []) (kept : ∀ word ∈ all, ∀ item ∈ word, keep item = true) :
    Separated keep separator ([separator].intercalate all) := by
  induction all with
  | nil => exact separated_of_kept keep separator separates (by simp)
  | cons word rest ih =>
      by_cases last : rest = []
      · have only := separated_of_kept keep separator separates (kept word (by simp))
        simpa [last] using only
      · have others := ih (fun word found => nonempty word (by simp [found]))
          (fun word found => kept word (by simp [found]))
        rw [intercalate_cons_ne_nil separator word last]
        exact others.cons_word keep separator separates (nonempty word (by simp))
          (kept word (by simp))
          (intercalate_ne_nil separator last fun word found => nonempty word (by simp [found]))

theorem getElem?_intercalate (separates : keep separator = false) {all : List (List α)}
    (kept : ∀ word ∈ all, ∀ item ∈ word, keep item = true) (index : Nat) :
    ([separator].intercalate all)[index]? = some separator ↔
      ∃ closed, closed + 1 < all.length ∧
        ((all.take (closed + 1)).map List.length).sum + closed = index := by
  induction all generalizing index with
  | nil => simp
  | cons word rest ih =>
      have inside : word[index]? ≠ some separator := by
        intro found
        exact ne_separator separates (kept word (by simp) _ (List.mem_of_getElem? found)) rfl
      by_cases last : rest = []
      · simp [last, inside]
      · rw [intercalate_cons_ne_nil separator word last]
        have more : 0 < rest.length := List.length_pos_iff.mpr last
        have following := ih (fun word found => kept word (by simp [found]))
        by_cases before : index < word.length
        · rw [List.getElem?_append_left before]
          constructor
          · intro found
            exact absurd found inside
          · rintro ⟨closed, bound, position⟩
            simp only [List.take_succ_cons, List.map_cons, List.sum_cons] at position
            omega
        · rw [List.getElem?_append_right (by omega)]
          by_cases exactly : index = word.length
          · constructor
            · intro found
              exact ⟨0, by simpa using more, by simp [exactly]⟩
            · intro found
              simp [exactly]
          · have shifted : index - word.length = index - word.length - 1 + 1 := by omega
            rw [shifted, List.getElem?_cons_succ, following]
            constructor
            · rintro ⟨closed, bound, position⟩
              refine ⟨closed + 1, by simpa using bound, ?_⟩
              simp only [List.take_succ_cons, List.map_cons, List.sum_cons]
              omega
            · rintro ⟨closed, bound, position⟩
              have later : closed ≠ 0 := by
                intro equal
                simp [equal] at position
                omega
              have next : closed - 1 + 1 = closed := by omega
              refine ⟨closed - 1, by simp at bound; omega, ?_⟩
              simp only [List.take_succ_cons, List.map_cons, List.sum_cons] at position
              rw [next]
              omega

theorem Separated.take_iff {items : List α} (separated : Separated keep separator items)
    {count : Nat} (positive : 0 < count) :
    Separated keep separator (items.take count) ↔ items[count - 1]? ≠ some separator := by
  by_cases present : count - 1 < items.length
  · have last : (items.take count).getLast? = items[count - 1]? := by
      simp [List.getLast?_take, List.getElem?_eq_getElem present, show count ≠ 0 by omega]
    constructor
    · intro taken
      exact last ▸ taken.ends
    · intro different
      exact {
        alphabet := fun item found => separated.alphabet item (List.mem_of_mem_take found)
        single := separated.single.take count
        starts := by
          rw [List.head?_take, if_neg (by omega)]
          exact separated.starts
        ends := by
          rw [last]
          exact different }
  · have absent : items[count - 1]? = none := List.getElem?_eq_none (by omega)
    rw [List.take_of_length_le (by omega), absent]
    simp [separated]

theorem collapse_of_isChain {items : List α}
    (alphabet : ∀ item ∈ items, keep item = true ∨ item = separator)
    (single : items.IsChain fun left right => ¬(left = separator ∧ right = separator))
    (inRun : Bool) (starts : inRun = true → items.head? ≠ some separator) :
    collapse keep separator inRun items = items := by
  induction items generalizing inRun with
  | nil => rfl
  | cons item rest ih =>
      have restAlphabet : ∀ item ∈ rest, keep item = true ∨ item = separator :=
        fun item found => alphabet item (by simp [found])
      have chain := List.isChain_cons.mp single
      by_cases kept : keep item = true
      · have following := ih restAlphabet chain.2 false (by simp)
        simp [collapse, kept, following]
      · have equal := (alphabet item (by simp)).resolve_left kept
        cases inRun with
        | true => exact absurd (by simp [equal]) (starts rfl)
        | false =>
            have following := ih restAlphabet chain.2 true fun _ first =>
              chain.1 separator first ⟨equal, rfl⟩
            simp only [collapse, kept, Bool.false_eq_true, if_false, following]
            rw [equal]

theorem Separated.strip_collapse [DecidableEq α] {items : List α}
    (separated : Separated keep separator items) :
    strip separator (collapse keep separator false items) = items := by
  rw [collapse_of_isChain keep separator separated.alphabet separated.single false (by simp), strip]
  have front : items.dropWhile (· == separator) = items := by
    cases items with
    | nil => rfl
    | cons item rest =>
        have different : item ≠ separator := by simpa using separated.starts
        simp [different]
  rw [front, List.rdropWhile_eq_self_iff]
  intro nonempty equal
  have last : items.getLast? = some separator := by
    rw [List.getLast?_eq_some_getLast nonempty, beq_iff_eq.mp equal]
  exact separated.ends last

theorem take_strip_collapse_iff [DecidableEq α] (separates : keep separator = false)
    (items : List α) {count : Nat} (positive : 0 < count) :
    Separated keep separator ((strip separator (collapse keep separator false items)).take count) ↔
      ¬∃ closed, closed + 1 < (words keep items).length ∧
        (((words keep items).take (closed + 1)).map List.length).sum + closed = count - 1 := by
  have kept : ∀ word ∈ words keep items, ∀ item ∈ word, keep item = true :=
    fun word found => word_kept keep found
  have normal := separated_intercalate keep separator separates
    (fun word found => word_ne_nil keep found) kept
  rw [strip_collapse keep separator separates, normal.take_iff keep separator positive,
    ← getElem?_intercalate keep separator separates kept]

end Runs
