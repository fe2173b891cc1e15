import MarketMind.Text.Values
import Mathlib.Data.List.Lex
import Mathlib.Data.List.Sort
import Mathlib.Data.Sum.Order

/-!
Owns the order in which a JavaScript object enumerates properties that are set
in an order of their keys.

Does not own these orders.
-/

namespace MarketMind.Text

/-- The array index that a key spells, if it spells one. -/
def arrayIndex? (key : JsString) : Option Nat :=
  let number := Nat.ofDigitChars 10 (key.map Char.ofNat) 0
  if ascii (Nat.toDigits 10 number) = key ∧ number < 4294967295 then some number else none

/-- `Object.fromEntries`, for distinct keys: an object enumerates its array indices first. -/
def fromEntries {α : Type} (entries : List (JsString × α)) : List (JsString × α) :=
  (entries.filter fun entry => (arrayIndex? entry.1).isSome).insertionSort
      (fun left right => (arrayIndex? left.1).getD 0 ≤ (arrayIndex? right.1).getD 0) ++
    entries.filter fun entry => (arrayIndex? entry.1).isNone

theorem spelled_of_arrayIndex? {key : JsString} {index : Nat}
    (isIndex : arrayIndex? key = some index) : ascii (Nat.toDigits 10 index) = key := by
  unfold arrayIndex? at isIndex
  dsimp only at isIndex
  split at isIndex
  · next spelled =>
    obtain rfl := Option.some.inj isIndex
    exact spelled.1
  · cases isIndex

variable {β : Type} (rank : JsString → β)

/-- Where an object enumerates a key: by its index, or else by its rank. -/
def keyRank (key : JsString) : Nat ⊕ₗ β :=
  match arrayIndex? key with
  | some index => Sum.inlₗ index
  | none => Sum.inrₗ (rank key)

variable {rank}

theorem keyRank_of_index {key : JsString} {index : Nat} (isIndex : arrayIndex? key = some index) :
    keyRank rank key = Sum.inlₗ index := by
  rw [keyRank, isIndex]

theorem keyRank_of_name {key : JsString} (isName : arrayIndex? key = none) :
    keyRank rank key = Sum.inrₗ (rank key) := by
  rw [keyRank, isName]

theorem keyRank_injective (injective : Function.Injective rank) :
    Function.Injective (keyRank rank) := by
  intro left right same
  cases isLeft : arrayIndex? left with
  | some index =>
      rw [keyRank_of_index isLeft] at same
      cases isRight : arrayIndex? right with
      | some other =>
          rw [keyRank_of_index isRight] at same
          obtain rfl := Sum.inl.inj (toLex_inj.1 same)
          rw [← spelled_of_arrayIndex? isLeft, spelled_of_arrayIndex? isRight]
      | none =>
          rw [keyRank_of_name isRight] at same
          cases toLex_inj.1 same
  | none =>
      rw [keyRank_of_name isLeft] at same
      cases isRight : arrayIndex? right with
      | some other =>
          rw [keyRank_of_index isRight] at same
          cases toLex_inj.1 same
      | none =>
          rw [keyRank_of_name isRight] at same
          exact injective (Sum.inr.inj (toLex_inj.1 same))

/-- An object holds the entries that it is built from. -/
theorem fromEntries_perm {α : Type} (entries : List (JsString × α)) :
    (fromEntries entries).Perm entries := by
  have others : (entries.filter fun entry => (arrayIndex? entry.1).isNone) =
      entries.filter fun entry => !(arrayIndex? entry.1).isSome :=
    List.filter_congr fun entry _ => by simp
  unfold fromEntries
  rw [others]
  exact ((List.perm_insertionSort ..).append_right _).trans (List.filter_append_perm _ _)

variable [LinearOrder β]

variable (rank) in
/-- Entries in the order of their ranks. -/
def sortedByRank {α : Type} (entries : List (JsString × α)) : List (JsString × α) :=
  entries.insertionSort fun left right => rank left.1 ≤ rank right.1

omit [LinearOrder β] in
private theorem pairwise_sortedBy {α γ : Type} [LinearOrder γ] (key : α → γ) (list : List α) :
    (list.insertionSort fun left right => key left ≤ key right).Pairwise
      fun left right => key left ≤ key right := by
  have : Std.Total fun left right => key left ≤ key right := ⟨fun _ _ => le_total _ _⟩
  have : IsTrans α fun left right => key left ≤ key right := ⟨fun _ _ _ => le_trans⟩
  exact List.pairwise_insertionSort _ list

/-- Sorting the entries and building an object from them enumerates the keys by rank. -/
theorem enumerated_pairwise {α : Type} (fields : List (JsString × α)) :
    (fromEntries (sortedByRank rank fields)).Pairwise fun left right =>
      keyRank rank left.1 ≤ keyRank rank right.1 := by
  unfold fromEntries
  refine List.pairwise_append.2 ⟨?_, ?_, ?_⟩
  · refine (pairwise_sortedBy _ _).imp_of_mem fun {left right} leftIn rightIn ordered => ?_
    have leftIndex := (List.mem_filter.1 ((List.perm_insertionSort ..).mem_iff.1 leftIn)).2
    have rightIndex := (List.mem_filter.1 ((List.perm_insertionSort ..).mem_iff.1 rightIn)).2
    obtain ⟨index, isLeft⟩ := Option.isSome_iff_exists.1 leftIndex
    obtain ⟨other, isRight⟩ := Option.isSome_iff_exists.1 rightIndex
    rw [isLeft, isRight] at ordered
    rw [keyRank_of_index isLeft, keyRank_of_index isRight, Sum.Lex.inl_le_inl_iff]
    exact ordered
  · have sorted := (@pairwise_sortedBy (JsString × α) β _ (fun entry => rank entry.1) fields).filter
      fun entry => (arrayIndex? entry.1).isNone
    refine sorted.imp_of_mem fun {left right} leftIn rightIn ordered => ?_
    have isLeft := Option.isNone_iff_eq_none.1 (List.mem_filter.1 leftIn).2
    have isRight := Option.isNone_iff_eq_none.1 (List.mem_filter.1 rightIn).2
    rw [keyRank_of_name isLeft, keyRank_of_name isRight, Sum.Lex.inr_le_inr_iff]
    exact ordered
  · intro left leftIn right rightIn
    have leftIndex := (List.mem_filter.1 ((List.perm_insertionSort ..).mem_iff.1 leftIn)).2
    obtain ⟨index, isLeft⟩ := Option.isSome_iff_exists.1 leftIndex
    have isRight := Option.isNone_iff_eq_none.1 (List.mem_filter.1 rightIn).2
    rw [keyRank_of_index isLeft, keyRank_of_name isRight]
    exact Sum.Lex.inl_le_inr _ _

variable (rank) in
/-- Properties set in the order of their ranks, as an object enumerates them. -/
def CanonicalJson.Arrangement.byRank (injective : Function.Injective rank) :
    CanonicalJson.Arrangement where
  arrange := fun fields => fromEntries (sortedByRank rank fields)
  perm := fun fields => (fromEntries_perm _).trans (List.perm_insertionSort ..)
  eq_of_perm := by
    intro α left right distinct permuted
    have leftPerm := (fromEntries_perm (sortedByRank rank left)).trans (List.perm_insertionSort ..)
    have rightPerm := ((fromEntries_perm (sortedByRank rank right)).trans
      (List.perm_insertionSort ..)).trans permuted.symm
    refine List.Perm.eq_of_pairwise ?_ (enumerated_pairwise left) (enumerated_pairwise right)
      (leftPerm.trans rightPerm.symm)
    intro first second firstIn secondIn forward backward
    have sameKey := keyRank_injective injective (le_antisymm forward backward)
    exact List.inj_on_of_nodup_map distinct (leftPerm.mem_iff.1 firstIn)
      (rightPerm.mem_iff.1 secondIn) sameKey

end MarketMind.Text
