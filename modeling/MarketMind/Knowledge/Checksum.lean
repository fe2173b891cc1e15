import Mathlib.Data.List.Infix
import Mathlib.Data.List.TakeWhile

/-!
Owns the checksum of an entry file as the Node validator and the Python loader compute it, and when
the two are one.

Does not own the digest: any function of the normalised text may be it.
-/

namespace MarketMind.Knowledge.Checksum

abbrev Text := List Char

/-! ### What both do -/

/-- The text after the first occurrence of a pattern. -/
def afterFirst (pattern : Text) : Text → Option Text
  | [] => if pattern = [] then some [] else none
  | char :: rest =>
      if pattern <+: char :: rest then some ((char :: rest).drop pattern.length)
      else afterFirst pattern rest

def isBlank (char : Char) : Bool := char = ' ' || char = '\t'

/-- `[ \t]+$` for all lines, with the places before which a line ends. -/
def stripLines (endsLine : Char → Bool) : Text → Text
  | [] => []
  | char :: rest =>
      if isBlank char && (rest.dropWhile isBlank).head?.all endsLine then stripLines endsLine rest
      else char :: stripLines endsLine rest

/-- `\n+$`, at the end of the text. -/
def collapse (text : Text) : Text :=
  (text.reverse.dropWhile (· = '\n')).reverse ++ (if text.getLast? = some '\n' then ['\n'] else [])

/-- `\r\n` becomes `\n`. -/
def unixNewlines : Text → Text
  | '\r' :: '\n' :: rest => '\n' :: unixNewlines rest
  | char :: rest => char :: unixNewlines rest
  | [] => []

/-! ### `validate-knowledge.mjs` -/

/-- U+2028 and U+2029. -/
def isSeparator (char : Char) : Bool := char.toNat = 0x2028 || char.toNat = 0x2029

/-- The line terminators of a regular expression. -/
def isLineTerminator (char : Char) : Bool := char = '\n' || char = '\r' || isSeparator char

/-- A line break in front of the content. -/
def dropLineBreak : Text → Text
  | '\r' :: '\n' :: rest => rest
  | '\r' :: rest => rest
  | '\n' :: rest => rest
  | text => text

def fence : Text := ['-', '-', '-']

/-- `matter(raw).content` -/
def content (raw : Text) : Text :=
  match afterFirst ('\n' :: fence) (raw.drop 3) with
  | some rest => dropLineBreak rest
  | none => []

def normalizeBody (body : Text) : Text := collapse (stripLines isLineTerminator (unixNewlines body))

def checksumOf {Digest : Type} (sha256 : Text → Digest) (raw : Text) : Digest :=
  sha256 (normalizeBody (content raw))

/-! ### `loader.py` -/

/-- `read_text`: every line end becomes `\n`. -/
def universalNewlines : Text → Text
  | '\r' :: '\n' :: rest => '\n' :: universalNewlines rest
  | '\r' :: rest => '\n' :: universalNewlines rest
  | char :: rest => char :: universalNewlines rest
  | [] => []

def dropByteOrderMark : Text → Text
  | char :: rest => if char.toNat = 0xFEFF then rest else char :: rest
  | [] => []

/-- `_extract_body_from_raw`; no `\r` is left in what is read. -/
def extractBodyFromRaw (rawText : Text) : Text :=
  if fence <+: rawText then
    (afterFirst ('\n' :: fence ++ ['\n']) (rawText.drop 3)).getD rawText
  else rawText

/-- `_normalize_body` -/
def normalizeText (body : Text) : Text := collapse (stripLines (· = '\n') (unixNewlines body))

def computeChecksum {Digest : Type} (sha256 : Text → Digest) (raw : Text) : Digest :=
  sha256 (normalizeText (extractBodyFromRaw (dropByteOrderMark (universalNewlines raw))))

/-! ### First occurrences -/

section Occurrences

variable {pattern text rest : Text}

theorem afterFirst_eq_some (filled : pattern ≠ []) : afterFirst pattern text = some rest ↔
    ∃ front, text = front ++ pattern ++ rest ∧
      ∀ other after, text = other ++ pattern ++ after → front.length ≤ other.length := by
  induction text with
  | nil =>
      rw [afterFirst, if_neg filled]
      constructor
      · intro absurdly
        cases absurdly
      · rintro ⟨front, empty, -⟩
        simp [filled] at empty
  | cons char text inductionHypothesis =>
      rw [afterFirst]
      by_cases here : pattern <+: char :: text
      · rw [if_pos here]
        obtain ⟨after, found⟩ := here
        constructor
        · intro same
          rw [← found, List.drop_left] at same
          obtain rfl := Option.some.inj same
          exact ⟨[], found.symm, fun _ _ _ => Nat.zero_le _⟩
        · rintro ⟨front, split, first⟩
          have atStart := first [] after found.symm
          obtain rfl := List.eq_nil_of_length_eq_zero (Nat.le_zero.mp atStart)
          rw [split, List.nil_append, List.drop_left]
      · rw [if_neg here, inductionHypothesis]
        constructor
        · rintro ⟨front, rfl, first⟩
          refine ⟨char :: front, rfl, fun other after split => ?_⟩
          cases other with
          | nil => exact absurd ⟨after, split.symm⟩ here
          | cons head other =>
              exact Nat.succ_le_succ (first other after (List.cons.inj split).2)
        · rintro ⟨front, split, first⟩
          cases front with
          | nil => exact absurd ⟨rest, split.symm⟩ here
          | cons head front =>
              obtain ⟨rfl, rfl⟩ := List.cons.inj split
              refine ⟨front, rfl, fun other after same => ?_⟩
              exact Nat.le_of_succ_le_succ (first (char :: other) after (congrArg (char :: ·) same))

end Occurrences

theorem afterFirst_isSome {pattern text : Text} (filled : pattern ≠ [])
    (occurs : pattern <:+: text) : ∃ rest, afterFirst pattern text = some rest := by
  induction text with
  | nil => exact absurd (List.infix_nil.mp occurs) filled
  | cons char text inductionHypothesis =>
      rw [afterFirst]
      split
      · exact ⟨_, rfl⟩
      · next elsewhere =>
        exact inductionHypothesis ((List.infix_cons_iff.mp occurs).resolve_left elsewhere)

/-! ### What normalisation keeps -/

section Counting

variable {p : Char → Bool}

theorem countP_unixNewlines (newline : p '\n' = false) (carriage : p '\r' = false) (text : Text) :
    (unixNewlines text).countP p = text.countP p := by
  induction text using unixNewlines.induct with
  | case1 rest inductionHypothesis =>
      simp [unixNewlines, newline, carriage, inductionHypothesis]
  | case2 char rest other inductionHypothesis =>
      rw [unixNewlines, List.countP_cons, List.countP_cons, inductionHypothesis]
      exact other
  | case3 => rfl

theorem countP_universalNewlines (newline : p '\n' = false) (carriage : p '\r' = false)
    (text : Text) : (universalNewlines text).countP p = text.countP p := by
  induction text using universalNewlines.induct with
  | case1 rest inductionHypothesis =>
      simp [universalNewlines, newline, carriage, inductionHypothesis]
  | case2 rest other inductionHypothesis =>
      rw [universalNewlines, List.countP_cons, List.countP_cons, inductionHypothesis, newline,
        carriage]
      exact other
  | case3 char rest other another inductionHypothesis =>
      rw [universalNewlines, List.countP_cons, List.countP_cons, inductionHypothesis]
      · exact other
      · exact another
  | case4 => rfl

theorem countP_stripLines (blank : ∀ char, isBlank char → p char = false)
    (endsLine : Char → Bool) (text : Text) :
    (stripLines endsLine text).countP p = text.countP p := by
  induction text with
  | nil => rfl
  | cons char rest inductionHypothesis =>
      rw [stripLines]
      split
      · next strips =>
        rw [inductionHypothesis, List.countP_cons,
          blank char (Bool.and_eq_true_iff.mp strips).1]
        rfl
      · rw [List.countP_cons, List.countP_cons, inductionHypothesis]

theorem countP_collapse (newline : p '\n' = false) (text : Text) :
    (collapse text).countP p = text.countP p := by
  have ends : (if text.getLast? = some '\n' then ['\n'] else []).countP p = 0 := by
    split
    · simp [newline]
    · rfl
  have newlines : (text.reverse.takeWhile (· = '\n')).countP p = 0 := by
    rw [List.countP_eq_zero]
    intro char member
    have isNewline := List.mem_takeWhile_imp member
    rw [of_decide_eq_true isNewline, newline]
    exact Bool.false_ne_true
  have parted := congrArg (List.countP p) (List.takeWhile_append_dropWhile
    (p := fun char => decide (char = '\n')) (l := text.reverse))
  rw [List.countP_append, newlines, Nat.zero_add, List.countP_reverse] at parted
  rw [collapse, List.countP_append, ends, List.countP_reverse, parted, Nat.add_zero]

end Counting

/-! ### Carriage returns -/

/-- Every `\r` stands in front of a `\n`. -/
def NoLoneReturn : Text → Prop
  | '\r' :: '\n' :: rest => NoLoneReturn rest
  | '\r' :: _ => False
  | _ :: rest => NoLoneReturn rest
  | [] => True

theorem return_not_mem_universalNewlines (text : Text) : '\r' ∉ universalNewlines text := by
  induction text using universalNewlines.induct with
  | case1 rest inductionHypothesis => simp [universalNewlines, inductionHypothesis]
  | case2 rest other inductionHypothesis =>
      rw [universalNewlines]
      · simp [inductionHypothesis]
      · exact other
  | case3 char rest other another inductionHypothesis =>
      rw [universalNewlines]
      · simp only [List.mem_cons, not_or]
        exact ⟨fun same => another same.symm, inductionHypothesis⟩
      · exact other
      · exact another
  | case4 => simp [universalNewlines]

theorem unixNewlines_of_no_return {text : Text} (noReturn : '\r' ∉ text) :
    unixNewlines text = text := by
  induction text with
  | nil => rfl
  | cons char rest inductionHypothesis =>
      obtain ⟨isOther, restOther⟩ := not_or.mp (List.mem_cons.not.mp noReturn)
      rw [unixNewlines, inductionHypothesis restOther]
      intro others same
      exact absurd same.symm isOther

/-- The two translations differ where a `\r` stands alone. -/
theorem unixNewlines_cases (text : Text) :
    NoLoneReturn text ∧ unixNewlines text = universalNewlines text ∨
      ¬ NoLoneReturn text ∧ '\r' ∈ unixNewlines text := by
  induction text using universalNewlines.induct with
  | case1 rest inductionHypothesis =>
      simp only [NoLoneReturn, unixNewlines, universalNewlines]
      rcases inductionHypothesis with ⟨none, same⟩ | ⟨lone, member⟩
      · exact .inl ⟨none, congrArg _ same⟩
      · exact .inr ⟨lone, List.mem_cons_of_mem _ member⟩
  | case2 rest other inductionHypothesis =>
      right
      rw [NoLoneReturn, unixNewlines]
      · exact ⟨not_false, List.mem_cons_self⟩
      all_goals grind
  | case3 char rest other another inductionHypothesis =>
      rw [NoLoneReturn, unixNewlines, universalNewlines]
      · rcases inductionHypothesis with ⟨none, same⟩ | ⟨lone, member⟩
        · exact .inl ⟨none, congrArg _ same⟩
        · exact .inr ⟨lone, List.mem_cons_of_mem _ member⟩
      all_goals grind
  | case4 => exact .inl ⟨trivial, rfl⟩

/-! ### Blanks in front of a separator -/

/-- A blank stands directly in front of U+2028 or U+2029. -/
def blankBeforeSeparator : Text → Bool
  | char :: next :: rest =>
      isBlank char && isSeparator next || blankBeforeSeparator (next :: rest)
  | _ => false

theorem blankBeforeSeparator_cons (char : Char) (rest : Text) :
    blankBeforeSeparator (char :: rest) =
      (isBlank char && rest.head?.any isSeparator || blankBeforeSeparator rest) := by
  cases rest with
  | nil => simp [blankBeforeSeparator]
  | cons next rest => rfl

theorem blankBeforeSeparator_universalNewlines (text : Text) :
    blankBeforeSeparator (universalNewlines text) = blankBeforeSeparator text := by
  have head (text : Text) :
      (universalNewlines text).head?.any isSeparator = text.head?.any isSeparator := by
    cases text using universalNewlines.fun_cases with
    | case1 rest => rfl
    | case2 rest other =>
        rw [universalNewlines]
        · rfl
        · exact other
    | case3 char rest other another =>
        rw [universalNewlines]
        · rfl
        · exact other
        · exact another
    | case4 => rfl
  induction text using universalNewlines.induct with
  | case1 rest inductionHypothesis =>
      simp [universalNewlines, blankBeforeSeparator_cons, inductionHypothesis, isBlank]
  | case2 rest other inductionHypothesis =>
      rw [universalNewlines, blankBeforeSeparator_cons, blankBeforeSeparator_cons,
        inductionHypothesis]
      · rfl
      · exact other
  | case3 char rest other another inductionHypothesis =>
      rw [universalNewlines, blankBeforeSeparator_cons, blankBeforeSeparator_cons, head,
        inductionHypothesis]
      · exact other
      · exact another
  | case4 => rfl

section Separators

variable {text : Text}

/-- A run of blanks that ends before a separator: its last blank stands in front of it. -/
theorem blankBeforeSeparator_of_run {char separator : Char} (isBlank : isBlank char)
    (next : (text.dropWhile Checksum.isBlank).head? = some separator)
    (isSeparator : isSeparator separator) : blankBeforeSeparator (char :: text) := by
  induction text generalizing char with
  | nil => cases next
  | cons head rest inductionHypothesis =>
      rw [blankBeforeSeparator_cons]
      by_cases further : Checksum.isBlank head
      · rw [List.dropWhile_cons_of_pos further] at next
        rw [inductionHypothesis further next, Bool.or_true]
      · rw [List.dropWhile_cons_of_neg further] at next
        obtain rfl := Option.some.inj next
        simp [isBlank, isSeparator]

/-- What ends a line for Python does for JavaScript; the other way round it may be a separator. -/
theorem stripLines_eq (noReturn : '\r' ∉ text) (plain : blankBeforeSeparator text = false) :
    stripLines isLineTerminator text = stripLines (· = '\n') text := by
  induction text with
  | nil => rfl
  | cons char rest inductionHypothesis =>
      have restPlain : blankBeforeSeparator rest = false := by
        rw [blankBeforeSeparator_cons, Bool.or_eq_false_iff] at plain
        exact plain.2
      have restOther : '\r' ∉ rest := fun member => noReturn (List.mem_cons_of_mem char member)
      have sameEnds : (isBlank char && (rest.dropWhile isBlank).head?.all isLineTerminator) =
          (isBlank char && (rest.dropWhile isBlank).head?.all (· = '\n')) := by
        cases blank : isBlank char with
        | false => rfl
        | true =>
            cases next : (rest.dropWhile isBlank).head? with
            | none => rfl
            | some head =>
                have isOther : head ≠ '\r' := by
                  rintro rfl
                  exact restOther ((List.dropWhile_suffix _).subset (List.mem_of_mem_head? next))
                have notSeparator : isSeparator head = false := by
                  by_contra separator
                  rw [blankBeforeSeparator_of_run blank next (by simpa using separator)] at plain
                  cases plain
                simp [isLineTerminator, isOther, notSeparator]
      rw [stripLines, stripLines, sameEnds, inductionHypothesis restOther restPlain]

theorem stripLines_blanks :
    (stripLines isLineTerminator text).countP isBlank ≤
        (stripLines (· = '\n') text).countP isBlank ∧
      (blankBeforeSeparator text = true → (stripLines isLineTerminator text).countP isBlank <
        (stripLines (· = '\n') text).countP isBlank) := by
  induction text with
  | nil => simp [stripLines, blankBeforeSeparator]
  | cons char rest inductionHypothesis =>
      obtain ⟨atMost, fewer⟩ := inductionHypothesis
      have ends : (isBlank char && (rest.dropWhile isBlank).head?.all (· = '\n')) = true →
          (isBlank char && (rest.dropWhile isBlank).head?.all isLineTerminator) = true := by
        simp only [Bool.and_eq_true, and_imp]
        intro blank newline
        refine ⟨blank, ?_⟩
        cases next : (rest.dropWhile isBlank).head? with
        | none => rfl
        | some head =>
            rw [next] at newline
            simp_all [isLineTerminator]
      have separated : (isBlank char && rest.head?.any isSeparator) = true →
          (isBlank char && (rest.dropWhile isBlank).head?.all isLineTerminator) = true ∧
            (isBlank char && (rest.dropWhile isBlank).head?.all (· = '\n')) = false := by
        simp only [Bool.and_eq_true, and_imp]
        intro blank separator
        cases rest with
        | nil => cases separator
        | cons next others =>
            have isSeparator : isSeparator next = true := separator
            have notBlank : ¬ isBlank next := by
              intro isBlank
              simp only [Checksum.isBlank, Bool.or_eq_true, decide_eq_true_eq] at isBlank
              rcases isBlank with rfl | rfl <;> cases isSeparator
            have notNewline : next ≠ '\n' := by
              rintro rfl
              cases isSeparator
            rw [List.dropWhile_cons_of_neg notBlank]
            simp [blank, isLineTerminator, isSeparator, notNewline]
      rw [blankBeforeSeparator_cons, stripLines, stripLines, Bool.or_eq_true]
      by_cases python : (isBlank char && (rest.dropWhile isBlank).head?.all (· = '\n')) = true
      · rw [if_pos python, if_pos (ends python)]
        refine ⟨atMost, ?_⟩
        rintro (here | later)
        · rw [(separated here).2] at python
          cases python
        · exact fewer later
      · rw [if_neg python]
        by_cases node : (isBlank char &&
            (rest.dropWhile isBlank).head?.all isLineTerminator) = true
        · rw [if_pos node, List.countP_cons_of_pos (Bool.and_eq_true_iff.mp node).1]
          exact ⟨by omega, fun _ => by omega⟩
        · rw [if_neg node, List.countP_cons, List.countP_cons]
          refine ⟨by omega, ?_⟩
          rintro (here | later)
          · exact absurd (separated here).1 node
          · have less := fewer later
            omega

/-- The normalised bodies are one exactly when no `\r` stands alone and no blank in front of a
separator. -/
theorem normalized_eq_iff (body : Text) :
    normalizeBody body = normalizeText (universalNewlines body) ↔
      NoLoneReturn body ∧ blankBeforeSeparator body = false := by
  have python : unixNewlines (universalNewlines body) = universalNewlines body :=
    unixNewlines_of_no_return (return_not_mem_universalNewlines body)
  have blankNewline : isBlank '\n' = false := by decide
  unfold normalizeBody normalizeText
  rw [python]
  rcases unixNewlines_cases body with ⟨none, same⟩ | ⟨lone, member⟩
  · rw [same, ← blankBeforeSeparator_universalNewlines]
    constructor
    · intro equal
      refine ⟨none, Bool.eq_false_iff.mpr fun separated => ?_⟩
      have counts := congrArg (List.countP isBlank) equal
      rw [countP_collapse blankNewline, countP_collapse blankNewline] at counts
      exact absurd counts (stripLines_blanks.2 separated).ne
    · rintro ⟨-, plain⟩
      rw [stripLines_eq (return_not_mem_universalNewlines body) plain]
  · refine iff_of_false (fun equal => ?_) fun both => lone both.1
    have notBlank : ∀ char, isBlank char → decide (char = '\r') = false := by
      intro char blank
      rw [decide_eq_false_iff_not]
      rintro rfl
      cases blank
    have counts := congrArg (List.countP (· = '\r')) equal
    rw [countP_collapse rfl, countP_collapse rfl, countP_stripLines notBlank,
      countP_stripLines notBlank] at counts
    have none : (universalNewlines body).countP (· = '\r') = 0 := by
      rw [List.countP_eq_zero]
      intro char among isReturn
      rw [of_decide_eq_true isReturn] at among
      exact return_not_mem_universalNewlines body among
    have some : 0 < (unixNewlines body).countP (· = '\r') :=
      List.countP_pos_iff.mpr ⟨'\r', member, by decide⟩
    omega

end Separators

/-! ### The closing line -/

/-- The closing line as the validator looks for it. -/
def nodeFence : Text := '\n' :: fence

/-- The closing line as the loader looks for it. -/
def pythonFence : Text := '\n' :: fence ++ ['\n']

def StartsWithBreak (text : Text) : Prop := text.head? = some '\n' ∨ text.head? = some '\r'

section Cuts

variable {front rest after : Text}

theorem universalNewlines_return (other : rest.head? ≠ some '\n') :
    universalNewlines ('\r' :: rest) = '\n' :: universalNewlines rest := by
  rw [universalNewlines]
  rintro tail rfl
  exact other rfl

theorem universalNewlines_other {char : Char} (other : char ≠ '\r') :
    universalNewlines (char :: rest) = char :: universalNewlines rest := by
  rw [universalNewlines]
  · rintro tail rfl
    exact absurd rfl other
  · rintro rfl
    exact other rfl

theorem universalNewlines_split (front rest : Text) :
    universalNewlines (front ++ '\n' :: rest) =
      universalNewlines (front ++ ['\n']) ++ universalNewlines rest := by
  induction front using universalNewlines.induct with
  | case1 front inductionHypothesis =>
      simp only [List.cons_append, universalNewlines, inductionHypothesis]
  | case2 front other inductionHypothesis =>
      cases front with
      | nil => rfl
      | cons head front =>
          have isOther : head ≠ '\n' := fun same => other front (by rw [same])
          have step (tail : Text) : universalNewlines ('\r' :: (head :: front ++ tail)) =
              '\n' :: universalNewlines (head :: front ++ tail) :=
            universalNewlines_return (by simpa using isOther)
          rw [List.cons_append, step, inductionHypothesis]
          exact congrArg (· ++ universalNewlines rest) (step ['\n']).symm
  | case3 char front other another inductionHypothesis =>
      rw [List.cons_append, List.cons_append, universalNewlines_other fun same => another same,
        universalNewlines_other fun same => another same, inductionHypothesis]
      rfl
  | case4 => rfl

theorem universalNewlines_ends (front : Text) :
    ∃ before, universalNewlines (front ++ ['\n']) = before ++ ['\n'] := by
  induction front using universalNewlines.induct with
  | case1 front inductionHypothesis =>
      obtain ⟨before, ends⟩ := inductionHypothesis
      exact ⟨'\n' :: before, by simp only [List.cons_append, universalNewlines, ends]⟩
  | case2 front other inductionHypothesis =>
      obtain ⟨before, ends⟩ := inductionHypothesis
      cases front with
      | nil => exact ⟨[], rfl⟩
      | cons head front =>
          have isOther : head ≠ '\n' := fun same => other front (by rw [same])
          refine ⟨'\n' :: before, ?_⟩
          rw [List.cons_append, universalNewlines_return (by simpa using isOther), ends]
          rfl
  | case3 char front other another inductionHypothesis =>
      obtain ⟨before, ends⟩ := inductionHypothesis
      refine ⟨char :: before, ?_⟩
      rw [List.cons_append, universalNewlines_other fun same => another same, ends]
      rfl
  | case4 => exact ⟨[], rfl⟩

/-- The loader reads a line break after the closing line where one stands. -/
theorem universalNewlines_eq_cons : universalNewlines rest = '\n' :: after ↔
    StartsWithBreak rest ∧ after = universalNewlines (dropLineBreak rest) := by
  unfold StartsWithBreak
  cases rest using universalNewlines.fun_cases with
  | case1 rest => simp [universalNewlines, dropLineBreak, eq_comm]
  | case2 rest other =>
      rw [universalNewlines, dropLineBreak]
      · simp [eq_comm]
      all_goals exact other
  | case3 char rest other another =>
      by_cases newline : char = '\n'
      · subst newline
        simp [universalNewlines, dropLineBreak, eq_comm]
      · rw [universalNewlines]
        · have notReturn : char ≠ '\r' := fun same => another same
          simp [newline, notReturn]
        all_goals grind
  | case4 => simp [universalNewlines]

/-- No other closing line of the validator starts before one that the text before it does not
have. -/
theorem nodeFence_first (none : ¬ nodeFence <:+: front) {other : Text}
    (same : front ++ nodeFence ++ rest = other ++ nodeFence ++ after) :
    front.length ≤ other.length := by
  by_contra shorter
  rw [List.append_assoc, List.append_assoc] at same
  obtain ⟨middle, rfl⟩ : other <+: front :=
    List.prefix_of_prefix_length_le ⟨_, rfl⟩ ⟨_, same⟩ (by omega)
  rw [List.append_assoc] at same
  have tails := List.append_cancel_left same
  rcases middle with _ | ⟨_, _ | ⟨_, _ | ⟨_, _ | ⟨_, middle⟩⟩⟩⟩ <;>
    simp [nodeFence, fence] at tails shorter
  obtain ⟨rfl, rfl, rfl, rfl, -⟩ := tails
  exact none ⟨other, middle, by simp [nodeFence, fence]⟩

theorem pythonFence_first (none : ¬ pythonFence <:+: front ++ ['\n']) {other : Text}
    (same : front ++ pythonFence ++ rest = other ++ pythonFence ++ after) :
    front.length ≤ other.length := by
  by_contra shorter
  rw [List.append_assoc, List.append_assoc] at same
  obtain ⟨middle, rfl⟩ : other <+: front :=
    List.prefix_of_prefix_length_le ⟨_, rfl⟩ ⟨_, same⟩ (by omega)
  rw [List.append_assoc] at same
  have tails := List.append_cancel_left same
  rcases middle with _ | ⟨_, _ | ⟨_, _ | ⟨_, _ | ⟨_, _ | ⟨_, middle⟩⟩⟩⟩⟩ <;>
    simp [pythonFence, fence] at tails shorter
  · obtain ⟨rfl, rfl, rfl, rfl, -⟩ := tails
    exact none ⟨other, [], by simp [pythonFence, fence]⟩
  · obtain ⟨rfl, rfl, rfl, rfl, rfl, -⟩ := tails
    exact none ⟨other, middle ++ ['\n'], by simp [pythonFence, fence]⟩

/-- Two cuts with as many dashes behind them are one. -/
theorem cut_unique {left right behind : Text}
    (same : left ++ nodeFence ++ rest = right ++ pythonFence ++ behind)
    (dashes : rest.countP (· = '-') = behind.countP (· = '-')) :
    left = right ∧ rest = '\n' :: behind := by
  rw [List.append_assoc, List.append_assoc] at same
  rcases List.append_eq_append_iff.mp same with ⟨middle, rfl, tails⟩ | ⟨middle, rfl, tails⟩
  · have counts := congrArg (List.countP (· = '-')) tails
    rcases middle with _ | ⟨_, _ | ⟨_, middle⟩⟩
    · simp [nodeFence, pythonFence, fence] at tails
      exact ⟨(List.append_nil left).symm, tails⟩
    · simp [nodeFence, pythonFence, fence] at tails
    · simp [nodeFence, pythonFence, fence] at tails counts
      obtain ⟨rfl, rfl, -⟩ := tails
      simp at counts
      omega
  · have counts := congrArg (List.countP (· = '-')) tails
    rcases middle with _ | ⟨_, _ | ⟨_, middle⟩⟩
    · simp [nodeFence, pythonFence, fence] at tails
      exact ⟨List.append_nil right, tails.symm⟩
    · simp [nodeFence, pythonFence, fence] at tails
    · simp [nodeFence, pythonFence, fence] at tails counts
      obtain ⟨rfl, rfl, -⟩ := tails
      simp at counts
      omega

end Cuts

/-! ### When the checksums agree -/

/-- The front matter is opened and closed by a line of three dashes. -/
def IsEntry (raw : Text) : Prop :=
  ∃ front rest, raw = fence ++ (front ++ nodeFence ++ rest) ∧
    StartsWithBreak (front ++ ['\n']) ∧ (rest = [] ∨ StartsWithBreak rest)

/-- The first dashes at the start of a line are a whole line and do not end the file, no line
before is of dashes when a `\r` ends lines, and the body has no such `\r` and no blank in front
of a separator. -/
def Agrees (raw : Text) : Prop :=
  ∃ front rest, raw = fence ++ (front ++ nodeFence ++ rest) ∧ ¬ nodeFence <:+: front ∧
    ¬ pythonFence <:+: universalNewlines (front ++ ['\n']) ∧ StartsWithBreak rest ∧
    NoLoneReturn (dropLineBreak rest) ∧ blankBeforeSeparator (dropLineBreak rest) = false

section Agreement

variable {front rest : Text}

theorem startsWith_fence (text : Text) : fence <+: fence ++ text := List.prefix_append fence text

theorem universalNewlines_fence (text : Text) :
    universalNewlines (fence ++ text) = fence ++ universalNewlines text := rfl

/-- What the loader reads: the first three dashes and the rest. -/
theorem python_reads (text : Text) :
    extractBodyFromRaw (dropByteOrderMark (universalNewlines (fence ++ text))) =
      (afterFirst pythonFence (universalNewlines text)).getD (fence ++ universalNewlines text) := by
  rw [universalNewlines_fence]
  exact if_pos (startsWith_fence _)

/-- The text of the loader, cut where the validator cuts. -/
theorem python_cut (front rest : Text) :
    ∃ before, universalNewlines (front ++ ['\n']) = before ++ ['\n'] ∧
      universalNewlines (front ++ nodeFence ++ rest) =
        before ++ nodeFence ++ universalNewlines rest := by
  obtain ⟨before, ends⟩ := universalNewlines_ends front
  refine ⟨before, ends, ?_⟩
  have split := universalNewlines_split front (fence ++ rest)
  rw [ends, universalNewlines_fence] at split
  simpa [nodeFence] using split

theorem dashes_dropLineBreak (text : Text) :
    (dropLineBreak text).countP (· = '-') = text.countP (· = '-') := by
  unfold dropLineBreak
  split <;> simp

theorem dashes_universalNewlines (text : Text) :
    (universalNewlines text).countP (· = '-') = text.countP (· = '-') :=
  countP_universalNewlines rfl rfl text

theorem dashes_normalized {endsLine : Char → Bool} (text : Text) :
    (collapse (stripLines endsLine (unixNewlines text))).countP (· = '-') =
      text.countP (· = '-') := by
  have notBlank : ∀ char, isBlank char → decide (char = '-') = false := by
    intro char blank
    rw [decide_eq_false_iff_not]
    rintro rfl
    cases blank
  rw [countP_collapse rfl, countP_stripLines notBlank, countP_unixNewlines rfl rfl]

/-- The body after the closing line and what the loader finds. -/
theorem normalized_agree_iff (front rest : Text) :
    normalizeBody (dropLineBreak rest) = normalizeText (extractBodyFromRaw (dropByteOrderMark
        (universalNewlines (fence ++ (front ++ nodeFence ++ rest))))) ↔
      ¬ pythonFence <:+: universalNewlines (front ++ ['\n']) ∧ StartsWithBreak rest ∧
        NoLoneReturn (dropLineBreak rest) ∧
          blankBeforeSeparator (dropLineBreak rest) = false := by
  obtain ⟨before, ends, cut⟩ := python_cut front rest
  rw [python_reads, ends]
  constructor
  · intro equal
    have counts := congrArg (List.countP (· = '-')) equal
    rw [normalizeBody, normalizeText, dashes_normalized, dashes_normalized,
      dashes_dropLineBreak] at counts
    cases search : afterFirst pythonFence (universalNewlines (front ++ nodeFence ++ rest)) with
    | none =>
        -- the whole text has three dashes more
        rw [search, Option.getD_none, List.countP_append, dashes_universalNewlines,
          List.countP_append] at counts
        simp [fence] at counts
        omega
    | some body =>
        rw [search, Option.getD_some] at counts equal
        obtain ⟨left, split, first⟩ := (afterFirst_eq_some (by simp [pythonFence])).mp search
        rw [cut] at split
        obtain ⟨rfl, begins⟩ := cut_unique split (by rw [dashes_universalNewlines, counts])
        obtain ⟨starts, rfl⟩ := universalNewlines_eq_cons.mp begins
        refine ⟨?_, starts, (normalized_eq_iff _).mp equal⟩
        rintro ⟨other, behind, earlier⟩
        have occurs : universalNewlines (front ++ nodeFence ++ rest) =
            other ++ pythonFence ++ (behind ++ (fence ++ universalNewlines rest)) := by
          rw [cut, ← List.append_assoc, earlier]
          simp [nodeFence]
        have atMost := first other _ occurs
        have lengths := congrArg List.length earlier
        simp [pythonFence, fence] at lengths
        omega
  · rintro ⟨noneBefore, starts, lines⟩
    have begins : universalNewlines rest = '\n' :: universalNewlines (dropLineBreak rest) :=
      universalNewlines_eq_cons.mpr ⟨starts, rfl⟩
    have split : universalNewlines (front ++ nodeFence ++ rest) =
        before ++ pythonFence ++ universalNewlines (dropLineBreak rest) := by
      rw [cut, begins]
      simp [nodeFence, pythonFence]
    have search : afterFirst pythonFence (universalNewlines (front ++ nodeFence ++ rest)) =
        some (universalNewlines (dropLineBreak rest)) := by
      refine (afterFirst_eq_some (by simp [pythonFence])).mpr ⟨before, split, ?_⟩
      intro other after same
      rw [split] at same
      exact pythonFence_first noneBefore same
    rw [search]
    exact (normalized_eq_iff _).mpr lines

theorem content_fence (found : afterFirst nodeFence (front ++ nodeFence ++ rest) = some rest) :
    content (fence ++ (front ++ nodeFence ++ rest)) = dropLineBreak rest := by
  unfold content
  rw [show (fence ++ (front ++ nodeFence ++ rest)).drop 3 = front ++ nodeFence ++ rest from rfl,
    show '\n' :: fence = nodeFence from rfl, found]

/-- The checksums of an entry file are one, whatever the digest is, exactly when its lines agree. -/
theorem checksums_agree_iff (raw : Text) (isEntry : IsEntry raw) :
    (∀ (Digest : Type) (sha256 : Text → Digest),
      checksumOf sha256 raw = computeChecksum sha256 raw) ↔ Agrees raw := by
  have filled : nodeFence ≠ [] := by simp [nodeFence]
  have normalized : (∀ (Digest : Type) (sha256 : Text → Digest),
      checksumOf sha256 raw = computeChecksum sha256 raw) ↔
        normalizeBody (content raw) =
          normalizeText (extractBodyFromRaw (dropByteOrderMark (universalNewlines raw))) :=
    ⟨fun agree => agree Text id, fun same Digest sha256 => congrArg sha256 same⟩
  rw [normalized]
  obtain ⟨opening, closing, rfl, -⟩ := isEntry
  obtain ⟨rest, found⟩ := afterFirst_isSome filled
    (⟨opening, closing, rfl⟩ : nodeFence <:+: opening ++ nodeFence ++ closing)
  obtain ⟨front, split, first⟩ := (afterFirst_eq_some filled).mp found
  have none : ¬ nodeFence <:+: front := by
    rintro ⟨other, behind, rfl⟩
    have atMost := first other (behind ++ nodeFence ++ rest) (by rw [split]; simp)
    have longer : 0 < nodeFence.length := List.length_pos_of_ne_nil filled
    rw [List.length_append, List.length_append] at atMost
    omega
  rw [split] at found ⊢
  rw [content_fence found, normalized_agree_iff]
  constructor
  · rintro ⟨noneBefore, starts, lines⟩
    exact ⟨front, rest, rfl, none, noneBefore, starts, lines⟩
  · rintro ⟨otherFront, otherRest, same, noOther, lines⟩
    have texts := List.append_cancel_left same
    have isFirst := nodeFence_first noOther texts.symm
    have isOtherFirst := nodeFence_first none texts
    have sameFront := List.append_inj (by simpa [List.append_assoc] using texts)
      (le_antisymm isOtherFirst isFirst)
    obtain rfl := sameFront.1
    obtain rfl := List.append_cancel_left sameFront.2
    exact lines

end Agreement

/-- A file with Windows line ends and a blank at the end of a line. -/
def windowsFile : Text := "---\r\nslug: a\r\n---\r\nHello \r\n\r\n".toList

theorem windowsFile_agrees :
    checksumOf (id : Text → Text) windowsFile = computeChecksum id windowsFile := by
  have split : windowsFile = fence ++ ("\r\nslug: a\r".toList ++ nodeFence ++
      "\r\nHello \r\n\r\n".toList) := by decide
  refine (checksums_agree_iff windowsFile ⟨_, _, split, .inr rfl, .inr (.inr rfl)⟩).mpr
    ⟨_, _, split, by decide, by decide, .inr rfl, ?_, by decide⟩ Text id
  exact trivial

/-- A file that ends with its closing line. -/
def emptyFile : Text := "---\nslug: a\n---".toList

/-- The loader takes the whole file for the body where the validator finds none. -/
theorem emptyFile_disagrees : ¬ ∀ raw, IsEntry raw → ∀ (Digest : Type) (sha256 : Text → Digest),
    checksumOf sha256 raw = computeChecksum sha256 raw := by
  intro claimed
  have isEntry : IsEntry emptyFile :=
    ⟨"\nslug: a".toList, [], by decide, .inl rfl, .inl rfl⟩
  have same := claimed emptyFile isEntry Text id
  exact absurd same (by decide)

end MarketMind.Knowledge.Checksum
