import MarketMind.Text.Literals

/-!
Owns the compact JSON texts as trees: what is written for each part of a value,
and that a text stands for one tree only.

Does not own how numbers are written or how properties are ordered; an atom is
the text of a number, a boolean or `null`.
-/

namespace MarketMind.Text

open CodeUnit

inductive Printed
  | atom (text : List Nat)
  | string (value : List Nat)
  | array (items : List Printed)
  | object (fields : List (List Nat × Printed))

namespace Printed

mutual

/-- The text of a tree. -/
def units : Printed → List Nat
  | atom text => text
  | string value => quote :: quoted value
  | array items => openBracket :: itemUnits true items
  | object fields => openBrace :: fieldUnits true fields

/-- The items that are left of an array, of which the first follows no comma. -/
def itemUnits : Bool → List Printed → List Nat
  | _, [] => [closeBracket]
  | true, item :: rest => item.units ++ itemUnits false rest
  | false, item :: rest => comma :: (item.units ++ itemUnits false rest)

def fieldUnits : Bool → List (List Nat × Printed) → List Nat
  | _, [] => [closeBrace]
  | true, (name, value) :: rest =>
      quote :: (quoted name ++ colon :: (value.units ++ fieldUnits false rest))
  | false, (name, value) :: rest =>
      comma :: quote :: (quoted name ++ colon :: (value.units ++ fieldUnits false rest))

end

/-- The code units that structure a text. -/
def isStructure (unit : Nat) : Bool :=
  unit ∈ [quote, comma, colon, openBracket, closeBracket, openBrace, closeBrace]

/-- A given text is checked unit by unit. -/
theorem plain_of_all {text : List Nat} (all : text.all (!isStructure ·) = true) :
    ∀ unit ∈ text, isStructure unit = false :=
  fun unit member => (Bool.not_eq_true' _).mp (List.all_eq_true.mp all unit member)

mutual

/-- Whether the atoms of a tree have a text that is none of the others. -/
def Sound : Printed → Prop
  | atom text => text ≠ [] ∧ ∀ unit ∈ text, isStructure unit = false
  | string _ => True
  | array items => SoundItems items
  | object fields => SoundFields fields

def SoundItems : List Printed → Prop
  | [] => True
  | item :: rest => Sound item ∧ SoundItems rest

def SoundFields : List (List Nat × Printed) → Prop
  | [] => True
  | (_, value) :: rest => Sound value ∧ SoundFields rest

end

/-! ## Reading back -/

/-- What stands behind a part of a text: nothing, a comma or a closing bracket. -/
def Stops (rest : List Nat) : Prop := ∀ unit, rest.head? = some unit → isStructure unit = true

private theorem atom_cancel {left right after behind : List Nat}
    (leftPlain : ∀ unit ∈ left, isStructure unit = false)
    (rightPlain : ∀ unit ∈ right, isStructure unit = false) (leftStops : Stops after)
    (rightStops : Stops behind) (same : left ++ after = right ++ behind) :
    left = right ∧ after = behind := by
  induction left generalizing right with
  | nil =>
      cases right with
      | nil => exact ⟨rfl, same⟩
      | cons unit rest =>
          have stop := leftStops unit (by rw [show after = _ from same]; rfl)
          rw [rightPlain unit List.mem_cons_self] at stop
          cases stop
  | cons unit rest inductionHypothesis =>
      cases right with
      | nil =>
          have stop := rightStops unit (by rw [show behind = _ from same.symm]; rfl)
          rw [leftPlain unit List.mem_cons_self] at stop
          cases stop
      | cons other others =>
          obtain ⟨rfl, rest⟩ := List.cons.inj same
          have further := inductionHypothesis
            (fun unit member => leftPlain unit (List.mem_cons_of_mem _ member))
            (fun unit member => rightPlain unit (List.mem_cons_of_mem _ member)) rest
          exact ⟨by rw [further.1], further.2⟩

/-- An atom starts like no other tree. -/
private theorem atom_ne {text rest behind : List Nat} {first : Nat}
    (plain : text ≠ [] ∧ ∀ unit ∈ text, isStructure unit = false)
    (structured : isStructure first = true) : text ++ rest ≠ first :: behind := by
  intro same
  obtain ⟨filled, plain⟩ := plain
  cases text with
  | nil => exact filled rfl
  | cons unit text =>
      obtain ⟨rfl, -⟩ := List.cons.inj same
      rw [plain unit List.mem_cons_self] at structured
      cases structured

/-- A tree starts with no closing bracket. -/
private theorem ne_closing {printed : Printed} (sound : printed.Sound) {closing : Nat}
    (isClosing : closing = closeBracket ∨ closing = closeBrace) {rest behind : List Nat} :
    printed.units ++ rest ≠ closing :: behind := by
  intro same
  cases printed with
  | atom text =>
      simp only [units, Sound] at same sound
      exact atom_ne sound (by rcases isClosing with rfl | rfl <;> decide) same
  | string value =>
      simp only [units, List.cons_append, List.cons.injEq] at same
      rcases isClosing with rfl | rfl <;> exact absurd same.1 (by decide)
  | array items =>
      simp only [units, List.cons_append, List.cons.injEq] at same
      rcases isClosing with rfl | rfl <;> exact absurd same.1 (by decide)
  | object fields =>
      simp only [units, List.cons_append, List.cons.injEq] at same
      rcases isClosing with rfl | rfl <;> exact absurd same.1 (by decide)

private theorem stops_items (rest : List Nat) (items : List Printed) :
    Stops (itemUnits false items ++ rest) := by
  intro unit isFirst
  cases items <;> obtain rfl := Option.some.inj isFirst <;> decide

private theorem stops_fields (rest : List Nat) (fields : List (List Nat × Printed)) :
    Stops (fieldUnits false fields ++ rest) := by
  intro unit isFirst
  cases fields <;> obtain rfl := Option.some.inj isFirst <;> decide

mutual

/-- A text starts with one tree only. -/
theorem units_cancel {left right : Printed} (leftSound : left.Sound) (rightSound : right.Sound)
    {after behind : List Nat} (leftStops : Stops after) (rightStops : Stops behind)
    (same : left.units ++ after = right.units ++ behind) : left = right ∧ after = behind := by
  match left, right with
  | atom text, atom other =>
      simp only [units, Sound] at same leftSound rightSound
      obtain ⟨rfl, rest⟩ := atom_cancel leftSound.2 rightSound.2 leftStops rightStops same
      exact ⟨rfl, rest⟩
  | string value, string other =>
      simp only [units, List.cons_append, List.cons.injEq, true_and] at same
      obtain ⟨rfl, rest⟩ := quoted_cancel same
      exact ⟨rfl, rest⟩
  | array items, array others =>
      simp only [units, List.cons_append, List.cons.injEq, true_and, Sound]
        at same leftSound rightSound
      obtain ⟨rfl, rest⟩ := itemUnits_cancel leftSound rightSound same
      exact ⟨rfl, rest⟩
  | object fields, object others =>
      simp only [units, List.cons_append, List.cons.injEq, true_and, Sound]
        at same leftSound rightSound
      obtain ⟨rfl, rest⟩ := fieldUnits_cancel leftSound rightSound same
      exact ⟨rfl, rest⟩
  | atom text, string _ | atom text, array _ | atom text, object _ =>
      simp only [units, Sound] at same leftSound
      exact absurd same (atom_ne leftSound (by decide))
  | string _, atom text | array _, atom text | object _, atom text =>
      simp only [units, Sound] at same rightSound
      exact absurd same.symm (atom_ne rightSound (by decide))
  | string _, array _ | string _, object _ | array _, string _ | array _, object _
  | object _, string _ | object _, array _ =>
      simp only [units, List.cons_append, List.cons.injEq] at same
      exact absurd same.1 (by decide)

theorem itemUnits_cancel {left right : List Printed} (leftSound : SoundItems left)
    (rightSound : SoundItems right) {first : Bool} {after behind : List Nat}
    (same : itemUnits first left ++ after = itemUnits first right ++ behind) :
    left = right ∧ after = behind := by
  match left, right with
  | [], [] => exact ⟨rfl, by simpa [itemUnits] using same⟩
  | item :: lefts, other :: rights =>
      have both : item.units ++ (itemUnits false lefts ++ after) =
          other.units ++ (itemUnits false rights ++ behind) := by
        cases first <;> simpa [itemUnits] using same
      obtain ⟨rfl, rest⟩ := units_cancel leftSound.1 rightSound.1 (stops_items _ _)
        (stops_items _ _) both
      obtain ⟨rfl, behindItems⟩ := itemUnits_cancel leftSound.2 rightSound.2 rest
      exact ⟨rfl, behindItems⟩
  | [], other :: rights =>
      cases first with
      | true =>
          exact absurd (by simpa [itemUnits] using same.symm) (ne_closing rightSound.1 (.inl rfl))
      | false => exact absurd (List.cons.inj same).1 (by decide)
  | item :: lefts, [] =>
      cases first with
      | true => exact absurd (by simpa [itemUnits] using same) (ne_closing leftSound.1 (.inl rfl))
      | false => exact absurd (List.cons.inj same).1 (by decide)

theorem fieldUnits_cancel {left right : List (List Nat × Printed)} (leftSound : SoundFields left)
    (rightSound : SoundFields right) {first : Bool} {after behind : List Nat}
    (same : fieldUnits first left ++ after = fieldUnits first right ++ behind) :
    left = right ∧ after = behind := by
  match left, right with
  | [], [] => exact ⟨rfl, by simpa [fieldUnits] using same⟩
  | (name, value) :: lefts, (otherName, other) :: rights =>
      have both : quoted name ++ colon :: (value.units ++ (fieldUnits false lefts ++ after)) =
          quoted otherName ++ colon :: (other.units ++ (fieldUnits false rights ++ behind)) := by
        cases first <;> simpa [fieldUnits] using same
      obtain ⟨rfl, behindName⟩ := quoted_cancel both
      obtain ⟨rfl, behindValue⟩ := units_cancel leftSound.1 rightSound.1 (stops_fields _ _)
        (stops_fields _ _) (List.cons.inj behindName).2
      obtain ⟨rfl, behindFields⟩ := fieldUnits_cancel leftSound.2 rightSound.2 behindValue
      exact ⟨rfl, behindFields⟩
  | [], (_, _) :: rights => cases first <;> exact absurd (List.cons.inj same).1 (by decide)
  | (_, _) :: lefts, [] => cases first <;> exact absurd (List.cons.inj same).1 (by decide)

end

/-- A text stands for one tree only. -/
theorem units_injective {left right : Printed} (leftSound : left.Sound) (rightSound : right.Sound)
    (same : left.units = right.units) : left = right :=
  (@units_cancel left right leftSound rightSound [] [] nofun nofun (by simpa using same)).1

end Printed

end MarketMind.Text
