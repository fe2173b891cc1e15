import Mathlib.Data.List.Dedup
import Mathlib.Data.List.DropRight
import MarketMind.Content.Generator
import MarketMind.Publishing.Contract

/-!
Owns how hashtags are repaired: by the API when the owner edits an item, and by the AI service
when it generates one, which also checks them.

Does not own the rest of an item.
-/

namespace MarketMind.Content.Hashtags

open Generator (ValidationIssue isSpace issueWhen strip)
open Publishing.Contract (isWhiteSpace)

/-! ### The code -/

def isMark (char : Char) : Bool := char ∈ [',', '،', ';', '؛']

/-- The pattern `[\s,،;؛]` of a language that takes `space` for `\s`. -/
def isSeparator (space : Char → Bool) (char : Char) : Bool := space char || isMark char

/-- A text cut at each run of separators. -/
def splitAtRuns (separator : Char → Bool) : List Char → List (List Char)
  | [] => [[]]
  | char :: rest =>
      if separator char then
        if rest.head?.any separator then splitAtRuns separator rest
        else [] :: splitAtRuns separator rest
      else (splitAtRuns separator rest).modifyHead (char :: ·)

def trim (space : Char → Bool) (text : List Char) : List Char :=
  ((text.dropWhile space).reverse.dropWhile space).reverse

/-- What the two inner loops go through. -/
def tokens (space : Char → Bool) (text : List Char) : List (List Char) :=
  (splitAtRuns (isSeparator space) text).flatMap fun fragment =>
    (fragment.splitOn '#').map (trim space)

def hashtag (token : List Char) : String := "#" ++ String.ofList token

/-- The body of the inner loop. -/
def push (normalized : List String) (token : List Char) : List String :=
  if token.isEmpty then normalized
  else if hashtag token ∈ normalized then normalized
  else normalized ++ [hashtag token]

def normalizeBy (space : Char → Bool) (texts : List (List Char)) : List String :=
  (texts.flatMap (tokens space)).foldl push []

/-- `normalizeEditableHashtags` -/
def normalizeEditableHashtags (values : List String) : List String :=
  normalizeBy isWhiteSpace (values.map (·.toList))

/-- The hashtags that `directEditItem` keeps. -/
def editedHashtags (channel : String) (values : List String) : List String :=
  if channel = "google_business_profile" then [] else normalizeEditableHashtags values

/-- `_normalize_hashtags` -/
def normalizeHashtags (channel : String) (values : List String) : List String :=
  if channel = "google_business_profile" then []
  else normalizeBy isSpace (values.map fun value => (strip value).toList)

/-- `_HASHTAG_PATTERN.fullmatch` -/
def isHashtag (value : String) : Bool :=
  match value.toList with
  | '#' :: topic => !topic.isEmpty && topic.all fun char => !isSpace char && char ≠ '#'
  | _ => false

/-- `_validate_hashtags` -/
def validateHashtags (values : List String) (field channel : String) : List ValidationIssue :=
  (if channel = "google_business_profile" then
    issueWhen (!values.isEmpty) "CONTENT_SCHEMA_FAILURE" field
      "Google Business Profile posts do not use hashtags."
  else
    issueWhen values.isEmpty "CONTENT_SCHEMA_FAILURE" field
      "Generated Content requires at least one channel-appropriate hashtag.") ++
    issueWhen (!decide values.Nodup) "CONTENT_SCHEMA_FAILURE" field
      "Hashtags must not contain duplicates." ++
    issueWhen (values.any fun value => !isHashtag value) "CONTENT_SCHEMA_FAILURE" field
      "Every hashtag must start with # and contain no whitespace."

/-! ### Cutting a text -/

section Cutting

variable {separator : Char → Bool}

theorem mem_splitOnP {text part : List Char} (found : part ∈ text.splitOnP separator) :
    ∀ char ∈ part, separator char = false ∧ char ∈ text := by
  induction text generalizing part with
  | nil => simp_all
  | cons head rest ih =>
      rw [List.splitOnP_cons_eq_if_modifyHead] at found
      intro char within
      by_cases ends : separator head
      · rw [if_pos ends] at found
        rcases List.mem_cons.mp found with rfl | later
        · simp at within
        · exact (ih later char within).imp_right (List.mem_cons_of_mem _)
      · rw [if_neg ends] at found
        obtain ⟨first, others, parts⟩ :=
          List.exists_cons_of_ne_nil (List.splitOnP_ne_nil separator rest)
        simp only [parts, List.modifyHead_cons, List.mem_cons] at found
        have below := fun part (listed : part ∈ first :: others) => ih (parts ▸ listed)
        rcases found with rfl | later
        · rcases List.mem_cons.mp within with rfl | behind
          · exact ⟨by simpa using ends, by simp⟩
          · exact (below first (by simp) char behind).imp_right (List.mem_cons_of_mem _)
        · exact (below part (by simp [later]) char within).imp_right (List.mem_cons_of_mem _)

theorem exists_splitOnP {text : List Char} {char : Char} (present : char ∈ text)
    (plain : separator char = false) : ∃ part ∈ text.splitOnP separator, char ∈ part := by
  induction text with
  | nil => simp at present
  | cons head rest ih =>
      obtain ⟨first, others, parts⟩ :=
        List.exists_cons_of_ne_nil (List.splitOnP_ne_nil separator rest)
      rw [List.splitOnP_cons_eq_if_modifyHead, parts]
      rw [parts] at ih
      rcases List.mem_cons.mp present with rfl | later
      · exact ⟨char :: first, by simp [plain], by simp⟩
      · obtain ⟨part, listed, within⟩ := ih later
        by_cases ends : separator head
        · exact ⟨part, by simp [ends, List.mem_cons.mp listed], within⟩
        · rcases List.mem_cons.mp listed with rfl | other
          · exact ⟨head :: part, by simp [ends], by simp [within]⟩
          · exact ⟨part, by simp [ends, other], within⟩

theorem splitOnP_splitOnP (other : Char → Bool) (text : List Char) :
    (text.splitOnP separator).flatMap (·.splitOnP other) =
      text.splitOnP fun char => separator char || other char := by
  induction text with
  | nil => simp
  | cons head rest ih =>
      obtain ⟨first, others, parts⟩ :=
        List.exists_cons_of_ne_nil (List.splitOnP_ne_nil separator rest)
      obtain ⟨start, more, inner⟩ :=
        List.exists_cons_of_ne_nil (List.splitOnP_ne_nil other first)
      rw [List.splitOnP_cons_eq_if_modifyHead, List.splitOnP_cons_eq_if_modifyHead, ← ih, parts]
      by_cases ends : separator head
      · simp [ends]
      · by_cases ends' : other head
        · simp [ends, ends', List.splitOnP_cons_eq_if_modifyHead]
        · simp [ends, ends', List.splitOnP_cons_eq_if_modifyHead, inner]

/-- Runs give the same parts as single separators, but for empty ones. -/
theorem splitAtRuns_splitOnP (text : List Char) :
    ∃ first runs parts, splitAtRuns separator text = first :: runs ∧
      text.splitOnP separator = first :: parts ∧
      runs.filter (!·.isEmpty) = parts.filter (!·.isEmpty) := by
  induction text with
  | nil => exact ⟨[], [], [], rfl, rfl, rfl⟩
  | cons head rest ih =>
      obtain ⟨first, runs, parts, runs_eq, parts_eq, same⟩ := ih
      rw [splitAtRuns, List.splitOnP_cons_eq_if_modifyHead, runs_eq, parts_eq]
      by_cases ends : separator head
      · by_cases again : rest.head?.any separator
        · have start : first = [] := by
            cases rest with
            | nil => simp at again
            | cons next rest =>
                rw [List.splitOnP_cons_eq_if_modifyHead, if_pos (by simpa using again)] at parts_eq
                exact (List.cons.inj parts_eq).1.symm
          exact ⟨[], runs, first :: parts, by simp [ends, again, start], by simp [ends],
            by simp [start, same]⟩
        · exact ⟨[], first :: runs, first :: parts, by simp [ends, again], by simp [ends],
            by simp only [List.filter_cons, same]⟩
      · exact ⟨head :: first, runs, parts, by simp [ends], by simp [ends], same⟩

/-- The parts of a text between separators, without the empty ones. -/
def pieces (separator : Char → Bool) (text : List Char) : List (List Char) :=
  (text.splitOnP separator).filter (!·.isEmpty)

theorem splitAtRuns_filter (text : List Char) :
    (splitAtRuns separator text).filter (!·.isEmpty) = pieces separator text := by
  obtain ⟨first, runs, parts, runs_eq, parts_eq, same⟩ :=
    @splitAtRuns_splitOnP separator text
  simp only [pieces, runs_eq, parts_eq, List.filter_cons, same]

theorem mem_pieces {text piece : List Char} (found : piece ∈ pieces separator text) :
    piece ≠ [] ∧ ∀ char ∈ piece, separator char = false ∧ char ∈ text := by
  rw [pieces, List.mem_filter] at found
  exact ⟨by simpa using found.2, mem_splitOnP found.1⟩

theorem exists_piece {text : List Char} {char : Char} (present : char ∈ text)
    (plain : separator char = false) : ∃ piece ∈ pieces separator text, char ∈ piece := by
  obtain ⟨part, listed, within⟩ := exists_splitOnP present plain
  refine ⟨part, List.mem_filter.mpr ⟨listed, ?_⟩, within⟩
  simpa using List.ne_nil_of_mem within

theorem pieces_eq_singleton {text : List Char} (filled : text ≠ [])
    (plain : ∀ char ∈ text, separator char = false) : pieces separator text = [text] := by
  rw [pieces, List.splitOnP_eq_singleton plain]
  simpa using filled

theorem pieces_cons {char : Char} (ends : separator char = true) (rest : List Char) :
    pieces separator (char :: rest) = pieces separator rest := by
  simp [pieces, List.splitOnP_cons_eq_if_modifyHead, ends]

theorem pieces_concat {char : Char} (ends : separator char = true) (text : List Char) :
    pieces separator (text ++ [char]) = pieces separator text := by
  simp [pieces, List.splitOnP_append_cons text [] ends]

end Cutting

/-! ### Trimming -/

section Trimming

variable {space : Char → Bool}

theorem trim_of_free {text : List Char} (free : ∀ char ∈ text, space char = false) :
    trim space text = text := by
  have whole : ∀ text : List Char, (∀ char ∈ text, space char = false) →
      text.dropWhile space = text := fun text free => by
    cases text with
    | nil => rfl
    | cons head rest => simp [free head (by simp)]
  rw [trim, whole text free, whole _ (by simpa using free), List.reverse_reverse]

theorem pieces_dropWhile {separator : Char → Bool}
    (within : ∀ char, space char = true → separator char = true) (text : List Char) :
    pieces separator (text.dropWhile space) = pieces separator text := by
  induction text with
  | nil => rfl
  | cons head rest ih =>
      by_cases blank : space head
      · rw [List.dropWhile_cons_of_pos blank, ih, pieces_cons (within head blank)]
      · rw [List.dropWhile_cons_of_neg blank]

theorem pieces_trim {separator : Char → Bool}
    (within : ∀ char, space char = true → separator char = true) (text : List Char) :
    pieces separator (trim space text) = pieces separator text := by
  have behind : ∀ text : List Char,
      pieces separator (text.rdropWhile space) = pieces separator text := fun text => by
    induction text using List.reverseRecOn with
    | nil => rfl
    | append_singleton rest last ih =>
        by_cases blank : space last
        · rw [List.rdropWhile_concat_pos _ _ _ blank, ih, pieces_concat (within last blank)]
        · rw [List.rdropWhile_concat_neg _ _ _ blank]
  exact (behind _).trans (pieces_dropWhile within text)

end Trimming

/-! ### Collecting -/

/-- Every character that ends a token. -/
def ends (space : Char → Bool) (char : Char) : Bool := isSeparator space char || char == '#'

theorem ends_of_space {space : Char → Bool} {char : Char} (blank : space char = true) :
    ends space char = true := by simp [ends, isSeparator, blank]

@[simp]
theorem hashtag_toList (token : List Char) : (hashtag token).toList = '#' :: token := by
  simp [hashtag]

theorem hashtag_injective : Function.Injective hashtag := fun left right same => by
  simpa using congrArg String.toList same

theorem mem_push {normalized : List String} {token : List Char} {tag : String} :
    tag ∈ push normalized token ↔ tag ∈ normalized ∨ (token ≠ [] ∧ tag = hashtag token) := by
  unfold push
  by_cases empty : token = []
  · simp [empty]
  · by_cases known : hashtag token ∈ normalized
    · simp only [List.isEmpty_iff, empty, known, if_true, if_false]
      exact ⟨Or.inl, fun either => either.elim id fun new => new.2 ▸ known⟩
    · simp [empty, known]

theorem push_nodup {normalized : List String} (distinct : normalized.Nodup)
    (token : List Char) : (push normalized token).Nodup := by
  unfold push
  by_cases empty : token.isEmpty
  · simpa [empty] using distinct
  · by_cases known : hashtag token ∈ normalized
    · simpa [empty, known] using distinct
    · have apart : ∀ tag ∈ normalized, tag ≠ hashtag token := fun tag listed same =>
        known (same ▸ listed)
      simpa [empty, known, List.nodup_append] using ⟨distinct, apart⟩

theorem mem_foldl_push {tag : String} (found : List (List Char)) (normalized : List String) :
    tag ∈ found.foldl push normalized ↔
      tag ∈ normalized ∨ ∃ token ∈ found, token ≠ [] ∧ tag = hashtag token := by
  induction found generalizing normalized with
  | nil => simp
  | cons token rest ih =>
      rw [List.foldl_cons, ih, mem_push]
      simp [or_assoc]

theorem foldl_push_nodup (found : List (List Char)) {normalized : List String}
    (distinct : normalized.Nodup) : (found.foldl push normalized).Nodup := by
  induction found generalizing normalized with
  | nil => exact distinct
  | cons token rest ih => exact ih (push_nodup distinct token)

/-- Tokens of distinct hashtags are all pushed, in their order. -/
theorem foldl_push_of_nodup (found : List (List Char)) (filled : ∀ token ∈ found, token ≠ [])
    {normalized : List String} (distinct : (normalized ++ found.map hashtag).Nodup) :
    found.foldl push normalized = normalized ++ found.map hashtag := by
  induction found generalizing normalized with
  | nil => simp
  | cons token rest ih =>
      have new : hashtag token ∉ normalized := fun known => by
        have apart := (List.nodup_append.mp distinct).2.2 _ known (hashtag token) (by simp)
        exact apart rfl
      have pushed : push normalized token = normalized ++ [hashtag token] := by
        simp [push, new, filled token (by simp)]
      rw [List.foldl_cons, pushed,
        ih (fun token listed => filled token (by simp [listed])) (by simpa using distinct)]
      simp

theorem foldl_push_filter (found : List (List Char)) (normalized : List String) :
    (found.filter (!·.isEmpty)).foldl push normalized = found.foldl push normalized := by
  rw [List.foldl_filter]
  congr 1
  funext normalized token
  by_cases empty : token.isEmpty
  · simp [empty, push]
  · simp [empty]

/-! ### What the loops find -/

section Finding

variable {space : Char → Bool}

/-- Trimming a token has nothing to do. -/
theorem tokens_eq (text : List Char) :
    tokens space text = (splitAtRuns (isSeparator space) text).flatMap (·.splitOn '#') := by
  refine List.flatMap_congr fun fragment listed => ?_
  refine (List.map_congr_left fun token within => ?_).trans (List.map_id _)
  refine trim_of_free fun char inside => ?_
  rw [List.splitOn_eq_splitOnP] at within
  have source := (mem_splitOnP within char inside).2
  have part : fragment ∈ pieces (isSeparator space) text := by
    rw [← splitAtRuns_filter, List.mem_filter]
    exact ⟨listed, by simpa using List.ne_nil_of_mem source⟩
  have plain := ((mem_pieces part).2 char source).1
  simp only [isSeparator, Bool.or_eq_false_iff] at plain
  exact plain.1

theorem tokens_filter (text : List Char) :
    (tokens space text).filter (!·.isEmpty) = pieces (ends space) text := by
  have skip : ∀ parts : List (List Char),
      (parts.flatMap (·.splitOn '#')).filter (!·.isEmpty) =
        ((parts.filter (!·.isEmpty)).flatMap (·.splitOn '#')).filter (!·.isEmpty) :=
    fun parts => by
      induction parts with
      | nil => rfl
      | cons part rest ih => cases part <;> simp [ih]
  rw [tokens_eq, skip, splitAtRuns_filter, pieces, ← skip]
  exact congrArg (List.filter _) (splitOnP_splitOnP (· == '#') text)

theorem normalizeBy_eq (texts : List (List Char)) :
    normalizeBy space texts = (texts.flatMap (pieces (ends space))).foldl push [] := by
  rw [normalizeBy, ← foldl_push_filter, List.filter_flatMap]
  exact congrArg (List.foldl push []) (List.flatMap_congr fun text _ => tokens_filter text)

theorem mem_normalizeBy {texts : List (List Char)} {tag : String} :
    tag ∈ normalizeBy space texts ↔
      ∃ text ∈ texts, ∃ piece ∈ pieces (ends space) text, tag = hashtag piece := by
  rw [normalizeBy_eq, mem_foldl_push]
  constructor
  · rintro (none | ⟨piece, listed, filled, rfl⟩)
    · simp at none
    · obtain ⟨text, source, found⟩ := List.mem_flatMap.mp listed
      exact ⟨text, source, piece, found, rfl⟩
  · rintro ⟨text, source, piece, found, rfl⟩
    exact Or.inr ⟨piece, List.mem_flatMap.mpr ⟨text, source, found⟩, (mem_pieces found).1, rfl⟩

theorem normalizeBy_nodup (texts : List (List Char)) : (normalizeBy space texts).Nodup := by
  rw [normalizeBy_eq]
  exact foldl_push_nodup _ List.nodup_nil

theorem normalizeBy_map_trim (texts : List (List Char)) :
    normalizeBy space (texts.map (trim space)) = normalizeBy space texts := by
  rw [normalizeBy_eq, normalizeBy_eq, List.flatMap_map]
  exact congrArg (List.foldl push [])
    (List.flatMap_congr fun text _ => pieces_trim (fun _ => ends_of_space) text)

/-- What the loops give has one token in each hashtag, the hashtag's own. -/
theorem normalizeBy_idempotent (texts : List (List Char)) :
    normalizeBy space ((normalizeBy space texts).map (·.toList)) = normalizeBy space texts := by
  set tags := normalizeBy space texts with tags_eq
  have shape : ∀ tag ∈ tags, ∃ piece, tag = hashtag piece ∧ piece ≠ [] ∧
      pieces (ends space) tag.toList = [piece] := fun tag listed => by
    obtain ⟨text, source, piece, found, rfl⟩ := mem_normalizeBy.mp listed
    obtain ⟨filled, plain⟩ := mem_pieces found
    refine ⟨piece, rfl, filled, ?_⟩
    rw [hashtag_toList, pieces_cons (by simp [ends])]
    exact pieces_eq_singleton filled fun char within => (plain char within).1
  have apart : (tags.map (·.toList)).flatMap (pieces (ends space)) =
      tags.map fun tag => tag.toList.tail := by
    rw [List.flatMap_map, List.map_eq_flatMap]
    refine List.flatMap_congr fun tag listed => ?_
    obtain ⟨piece, rfl, filled, only⟩ := shape tag listed
    rw [only, hashtag_toList, List.tail_cons]
  have whole : (tags.map fun tag => tag.toList.tail).map hashtag = tags := by
    rw [List.map_map]
    refine (List.map_congr_left fun tag listed => ?_).trans (List.map_id _)
    obtain ⟨piece, rfl, filled, only⟩ := shape tag listed
    simp
  have distinct : tags.Nodup := normalizeBy_nodup texts
  rw [normalizeBy_eq, apart, foldl_push_of_nodup, whole, List.nil_append]
  · intro token listed
    obtain ⟨tag, known, rfl⟩ := List.mem_map.mp listed
    obtain ⟨piece, rfl, filled, only⟩ := shape tag known
    simpa using filled
  · rwa [whole]

theorem normalizeBy_ne_nil {texts : List (List Char)} :
    normalizeBy space texts ≠ [] ↔ ∃ text ∈ texts, ∃ char ∈ text, ends space char = false := by
  constructor
  · intro filled
    obtain ⟨tag, listed⟩ := List.exists_mem_of_ne_nil _ filled
    obtain ⟨text, source, piece, found, rfl⟩ := mem_normalizeBy.mp listed
    obtain ⟨filled, plain⟩ := mem_pieces found
    obtain ⟨char, within⟩ := List.exists_mem_of_ne_nil piece filled
    exact ⟨text, source, char, (plain char within).2, (plain char within).1⟩
  · rintro ⟨text, source, char, present, plain⟩
    obtain ⟨piece, found, -⟩ := exists_piece present plain
    exact List.ne_nil_of_mem (mem_normalizeBy.mpr ⟨text, source, piece, found, rfl⟩)

/-- Only white space of both languages is in texts that both find the same hashtags in. -/
theorem space_of_agree {other : Char → Bool} {texts : List (List Char)}
    (same : normalizeBy space texts = normalizeBy other texts)
    (apart : ∀ char, space char = true → isMark char = false ∧ char ≠ '#') {text : List Char}
    (source : text ∈ texts) {char : Char} (present : char ∈ text) (blank : space char = true) :
    other char = true := by
  by_contra unlike
  have plain : ends other char = false := by
    simpa [ends, isSeparator, apart char blank] using unlike
  obtain ⟨piece, found, within⟩ := exists_piece present plain
  have tag : hashtag piece ∈ normalizeBy space texts :=
    same ▸ mem_normalizeBy.mpr ⟨text, source, piece, found, rfl⟩
  obtain ⟨text', -, piece', found', same'⟩ := mem_normalizeBy.mp tag
  obtain rfl := hashtag_injective same'
  have plain' := ((mem_pieces found').2 char within).1
  rw [ends_of_space blank] at plain'
  contradiction

theorem normalizeBy_congr {other : Char → Bool} {texts : List (List Char)}
    (agree : ∀ text ∈ texts, ∀ char ∈ text, space char = other char) :
    normalizeBy space texts = normalizeBy other texts := by
  have same : ∀ text : List Char, (∀ char ∈ text, space char = other char) →
      text.splitOnP (ends space) = text.splitOnP (ends other) := fun text agree => by
    induction text with
    | nil => rfl
    | cons head rest ih =>
        have like : ends space head = ends other head := by
          simp [ends, isSeparator, agree head (by simp)]
        rw [List.splitOnP_cons_eq_if_modifyHead, List.splitOnP_cons_eq_if_modifyHead, like,
          ih fun char listed => agree char (by simp [listed])]
  rw [normalizeBy_eq, normalizeBy_eq]
  exact congrArg (List.foldl push []) (List.flatMap_congr fun text source =>
    congrArg (List.filter _) (same text (agree text source)))

end Finding

/-! ### The two editors -/

theorem normalizeHashtags_eq (channel : String) (values : List String) :
    normalizeHashtags channel values =
      if channel = "google_business_profile" then []
      else normalizeBy isSpace (values.map (·.toList)) := by
  have trimmed : (values.map fun value => (strip value).toList) =
      (values.map (·.toList)).map (trim isSpace) := by simp [strip, trim]
  rw [normalizeHashtags, trimmed, normalizeBy_map_trim]

/-- The shorter form of the service that the generator is proved about. -/
theorem normalizeHashtags_generator (channel : String) (values : List String) :
    normalizeHashtags channel values = Generator.normalizeHashtags channel values := by
  have collected : ∀ found : List (List Char), (∀ token ∈ found, token ≠ []) →
      found.foldl push [] = (found.map hashtag).reverse.dedup.reverse := fun found => by
    induction found using List.reverseRecOn with
    | nil => exact fun _ => rfl
    | append_singleton rest last ih =>
        intro filled
        have before := ih fun token listed => filled token (by simp [listed])
        have last_filled := filled last (by simp)
        rw [List.foldl_append, before, List.foldl_cons, List.foldl_nil, push]
        by_cases known : hashtag last ∈ rest.map hashtag
        · rw [List.map_append, List.reverse_append, List.map_singleton, List.reverse_singleton,
            List.singleton_append, List.dedup_cons_of_mem (by simpa using known)]
          simpa [last_filled] using List.mem_map.mp known
        · rw [List.map_append, List.reverse_append, List.map_singleton, List.reverse_singleton,
            List.singleton_append, List.dedup_cons_of_notMem (by simpa using known)]
          simpa [last_filled] using fun token listed same =>
            absurd (List.mem_map.mpr ⟨token, listed, same⟩) known
  rw [normalizeHashtags_eq, Generator.normalizeHashtags]
  refine congrArg (ite _ []) ?_
  rw [normalizeBy_eq, collected, List.flatMap_map]
  · rfl
  · intro token listed
    obtain ⟨text, -, found⟩ := List.mem_flatMap.mp listed
    exact (mem_pieces found).1

theorem validateHashtags_normalize (channel : String) (values : List String) (field : String) :
    validateHashtags (normalizeHashtags channel values) field channel = [] ↔
      channel = "google_business_profile" ∨
        ∃ value ∈ values, ∃ char ∈ value.toList, ends isSpace char = false := by
  rw [normalizeHashtags_eq]
  by_cases google : channel = "google_business_profile"
  · simp [validateHashtags, google, issueWhen]
  · have shaped : (normalizeBy isSpace (values.map (·.toList))).any (fun value =>
        !isHashtag value) = false := by
      rw [List.any_eq_false]
      intro tag listed
      obtain ⟨text, -, piece, found, rfl⟩ := mem_normalizeBy.mp listed
      obtain ⟨filled, plain⟩ := mem_pieces found
      have inside : ∀ char ∈ piece, isSpace char = false ∧ char ≠ '#' := fun char within => by
        have plain := (plain char within).1
        simp only [ends, isSeparator, Bool.or_eq_false_iff, beq_eq_false_iff_ne] at plain
        exact ⟨plain.1.1, plain.2⟩
      simpa [isHashtag, filled] using inside
    have distinct := @normalizeBy_nodup isSpace (values.map (·.toList))
    have topic := @normalizeBy_ne_nil isSpace (values.map (·.toList))
    simp only [List.mem_map, exists_exists_and_eq_and] at topic
    simp [validateHashtags, google, shaped, distinct, issueWhen, ← topic]

/-- Python alone splits at the separators of ASCII and at the next line, and JavaScript alone at
the byte order mark. -/
theorem agree_on_space (char : Char) :
    isWhiteSpace char = isSpace char ↔
      char.toNat ∉ [0x1c, 0x1d, 0x1e, 0x1f, 0x85, 0xfeff] := by
  rw [Bool.eq_iff_iff]
  simp only [isWhiteSpace, isSpace, Char.toNat, List.mem_cons, List.not_mem_nil, or_false,
    UInt32.ext_iff, UInt32.le_iff_toNat_le, Bool.or_eq_true, Bool.and_eq_true,
    decide_eq_true_eq, UInt32.toNat_ofNat]
  omega

theorem marks_not_space (char : Char) (mark : isMark char = true ∨ char = '#') :
    isSpace char = false ∧ isWhiteSpace char = false := by
  simp only [isMark, List.mem_cons, List.not_mem_nil, or_false, decide_eq_true_eq] at mark
  rcases mark with (rfl | rfl | rfl | rfl) | rfl <;> decide

theorem editedHashtags_eq_iff {channel : String} (other : channel ≠ "google_business_profile")
    (values : List String) :
    editedHashtags channel values = normalizeHashtags channel values ↔
      ∀ value ∈ values, ∀ char ∈ value.toList, isWhiteSpace char = isSpace char := by
  rw [editedHashtags, normalizeHashtags_eq, if_neg other, if_neg other, normalizeEditableHashtags]
  constructor
  · intro same value listed char present
    have source := List.mem_map_of_mem (f := String.toList) listed
    rw [Bool.eq_iff_iff]
    constructor
    · refine space_of_agree same (fun char blank => ?_) source present
      have marks := marks_not_space char
      grind
    · refine space_of_agree same.symm (fun char blank => ?_) source present
      have marks := marks_not_space char
      grind
  · intro agree
    exact normalizeBy_congr (by simpa using agree)

/-- Repairing hashtags again changes nothing, in either language, and what the service repairs
passes its own check if a topic was there at all. The two languages agree on texts whose white
space they agree on. -/
theorem hashtags_survive (channel : String) (values : List String) :
    normalizeHashtags channel (normalizeHashtags channel values) =
        normalizeHashtags channel values ∧
      editedHashtags channel (editedHashtags channel values) = editedHashtags channel values ∧
      (∀ field, validateHashtags (normalizeHashtags channel values) field channel = [] ↔
        channel = "google_business_profile" ∨
          ∃ value ∈ values, ∃ char ∈ value.toList, ends isSpace char = false) ∧
      ((∀ value ∈ values, ∀ char ∈ value.toList, isWhiteSpace char = isSpace char) →
        editedHashtags channel values = normalizeHashtags channel values) := by
  refine ⟨?_, ?_, validateHashtags_normalize channel values, fun agree => ?_⟩
  · by_cases google : channel = "google_business_profile"
    · simp [normalizeHashtags, google]
    · simp only [normalizeHashtags_eq, if_neg google, normalizeBy_idempotent]
  · by_cases google : channel = "google_business_profile"
    · simp [editedHashtags, google]
    · simp only [editedHashtags, normalizeEditableHashtags, if_neg google, normalizeBy_idempotent]
  · by_cases google : channel = "google_business_profile"
    · simp [editedHashtags, normalizeHashtags, google]
    · exact (editedHashtags_eq_iff google values).mpr agree

/-- The owner's editor and the generator normalise alike exactly when no value has a character that
one of the languages alone takes for white space. -/
theorem editors_agree_iff (channel : String) (values : List String) :
    editedHashtags channel values = Generator.normalizeHashtags channel values ↔
      channel = "google_business_profile" ∨ ∀ value ∈ values, ∀ char ∈ value.toList,
        char.toNat ∉ [0x1c, 0x1d, 0x1e, 0x1f, 0x85, 0xfeff] := by
  rw [← normalizeHashtags_generator]
  by_cases google : channel = "google_business_profile"
  · simp [editedHashtags, normalizeHashtags, google]
  · simp only [editedHashtags_eq_iff google, agree_on_space, google, false_or]

/-- A byte order mark splits the owner's hashtag and stays in the generated one, and an answer
with marks only is left without a hashtag, which the check refuses. -/
theorem mark_splits_one_editor :
    editedHashtags "instagram" ["#grand\uFEFFopening"] = ["#grand", "#opening"] ∧
      normalizeHashtags "instagram" ["#grand\uFEFFopening"] = ["#grand\uFEFFopening"] ∧
      validateHashtags (normalizeHashtags "instagram" ["# ،"]) "item.hashtags" "instagram" ≠
        [] := by
  decide

end MarketMind.Content.Hashtags
