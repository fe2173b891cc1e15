import MarketMind.Content.Hashtags

/-!
Owns `MarkdownChunker.chunk`: how the Markdown body of an entry is cut into sections, blocks and
pieces, and how these are assembled into chunks that overlap.

Does not own the counting of tokens, and what chunks are identified by.
-/

namespace MarketMind.Knowledge.Chunker

open Content.Generator (isSpace)

abbrev Text := List Char

def strip (text : Text) : Text := Content.Hashtags.trim isSpace text

/-- `text.replace("\r\n", "\n")` -/
def replaceCrlf : Text → Text
  | '\r' :: '\n' :: rest => '\n' :: replaceCrlf rest
  | char :: rest => char :: replaceCrlf rest
  | [] => []

/-! ### Normalisation -/

/-- The categories of separators. -/
def isCategoryZ (char : Char) : Bool :=
  char.val ∈ [0x20, 0xa0, 0x1680, 0x2028, 0x2029, 0x202f, 0x205f, 0x3000] ||
    (0x2000 ≤ char.val && char.val ≤ 0x200a)

def isBlank (char : Char) : Bool := char == ' ' || char == '\t'

/-- Each run of blanks becomes a space. -/
def collapseBlanks : Text → Text
  | [] => []
  | char :: rest =>
      if isBlank char then
        if rest.head?.any isBlank then collapseBlanks rest else ' ' :: collapseBlanks rest
      else char :: collapseBlanks rest

/-- The blanks after a line break go. -/
def dropAfterBreaks (atStart : Bool) : Text → Text
  | [] => []
  | char :: rest =>
      if atStart && isBlank char then dropAfterBreaks true rest
      else char :: dropAfterBreaks (char == '\n') rest

/-- The blanks before a line break go. -/
def dropBeforeBreaks : Text → Text
  | [] => []
  | char :: rest =>
      if isBlank char && (rest.dropWhile isBlank).head? == some '\n' then dropBeforeBreaks rest
      else char :: dropBeforeBreaks rest

/-- Of three line breaks and more, two stay. -/
def collapseBreaks : Text → Text
  | [] => []
  | char :: rest =>
      if char == '\n' && rest.take 2 == ['\n', '\n'] then collapseBreaks rest
      else char :: collapseBreaks rest

def normalizeText (text : Text) : Text :=
  let spaced := (replaceCrlf text).map fun char =>
    if char == '\n' || !isCategoryZ char then char else ' '
  strip (collapseBreaks (dropBeforeBreaks (dropAfterBreaks false (collapseBlanks spaced))))

/-! ### Sections -/

/-- `_HEADING_RE` at the start of a line of a stripped text, and what follows the match. -/
def headingAt (text : Text) : Option (Text × Text) :=
  let hashes := text.takeWhile (· == '#')
  let rest := text.dropWhile (· == '#')
  let heading := rest.dropWhile isSpace
  if 1 ≤ hashes.length ∧ hashes.length ≤ 3 ∧ rest.head?.any isSpace ∧ heading ≠ [] then
    some (hashes ++ rest.takeWhile isSpace ++ heading.takeWhile (· != '\n'),
      heading.dropWhile (· != '\n'))
  else none

/-- The text before the first heading, and each heading with the text up to the next. -/
def scanHeadings : Nat → Bool → Text → Text × List (Text × Text)
  | 0, _, _ => ([], [])
  | _ + 1, _, [] => ([], [])
  | steps + 1, lineStart, char :: rest =>
      match if lineStart then headingAt (char :: rest) else none with
      | some (heading, after) =>
          let (body, sections) := scanHeadings steps false after
          ([], (heading, body) :: sections)
      | none =>
          let (body, sections) := scanHeadings steps (char == '\n') rest
          (char :: body, sections)

/-- `_split_sections` -/
def splitSections (text : Text) : List (Text × Text) :=
  let text := replaceCrlf text
  let (before, sections) := scanHeadings (text.length + 1) true text
  if sections = [] then [([], text)]
  else
    (if before = [] then [] else [([], strip before)]) ++
      sections.map fun (heading, body) => (strip heading, strip body)

/-! ### Blocks -/

inductive Kind where
  | paragraph | table | list | citation | rule
  deriving DecidableEq, Repr

structure Block where
  kind : Kind
  text : Text
  headingPath : Text
  deriving DecidableEq, Repr

/-- `str.splitlines` -/
def splitlines : Text → List Text
  | [] => []
  | '\r' :: '\n' :: rest => [] :: splitlines rest
  | char :: rest =>
      if char.val ∈ [0x0a, 0x0b, 0x0c, 0x0d, 0x1c, 0x1d, 0x1e, 0x85, 0x2028, 0x2029] then
        [] :: splitlines rest
      else
        match splitlines rest with
        | [] => [[char]]
        | line :: lines => (char :: line) :: lines

def join (separator : String) (parts : List Text) : Text := separator.toList.intercalate parts

/-- The classes `\w` and `\d` of a regular expression. -/
structure Classes where
  word : Char → Bool
  digit : Char → Bool

section Lines

variable (classes : Classes)

def isTableLine (line : Text) : Bool := '|' ∈ strip line

/-- `_is_list_item` -/
def isListItem (line : Text) : Bool :=
  match strip line with
  | '-' :: rest | '*' :: rest | '+' :: rest => rest.head?.any isSpace
  | text =>
      text.head?.any classes.digit &&
        match text.dropWhile classes.digit with
        | '.' :: rest => rest.head?.any isSpace
        | _ => false

/-- What is left of a text after this word, in whichever case. -/
def afterWord : Text → Text → Option Text
  | [], text => some text
  | letter :: word, char :: text =>
      if char.toLower == letter || (letter == 's' && char == 'ſ') then afterWord word text else none
  | _ :: _, [] => none

/-- `_CITATION_LINE_RE`, where the digits in brackets are also words in brackets. -/
def isCitationLine (line : Text) : Bool :=
  let text := strip line
  let plural (word : String) (ending : Char) : Bool :=
    ((afterWord word.toList text).map fun rest => (afterWord ['s'] rest).getD rest).any
      fun rest => rest.head? == some ending
  (match text with
    | '[' :: rest =>
        let note := if rest.head? == some '^' then rest.tail else rest
        note.head?.any classes.word && (note.dropWhile classes.word).head? == some ']'
    | _ => false) ||
    ["http://", "https://"].any (fun scheme => (afterWord scheme.toList text).isSome) ||
    plural "source" ':'

/-- `_classify_block` -/
def classifyBlock (lines : List Text) : Kind :=
  if lines = [] then .paragraph
  else if lines.all isTableLine then .table
  else if lines.all (isCitationLine classes) then .citation
  else if lines.any (isListItem classes) then .list
  else .paragraph

structure Extraction where
  blocks : List Block
  currentLines : List Text
  inTable : Bool

def Extraction.flush (headingPath : Text) (state : Extraction) : Extraction :=
  if state.currentLines = [] then state
  else
    let text := strip (join "\n" state.currentLines)
    { blocks :=
        if text = [] then state.blocks
        else state.blocks ++ [⟨classifyBlock classes state.currentLines, text, headingPath⟩]
      currentLines := []
      inTable := false }

def Extraction.read (headingPath : Text) (state : Extraction) (line : Text) : Extraction :=
  if strip line = [] then state.flush classes headingPath
  else
    let isTable := isTableLine line
    let state :=
      if state.currentLines ≠ [] ∧ state.inTable ≠ isTable then state.flush classes headingPath
      else state
    { state with currentLines := state.currentLines ++ [line], inTable := isTable }

/-- `_extract_blocks` -/
def extractBlocks (sectionText headingPath : Text) : List Block :=
  (((splitlines sectionText).foldl (Extraction.read classes headingPath) ⟨[], [], false⟩).flush
    classes headingPath).blocks

/-- The blocks of all sections. -/
def allBlocks (title body : Text) : List Block :=
  (splitSections (normalizeText body)).flatMap fun (heading, sectionText) =>
    extractBlocks classes sectionText
      (if heading = [] then title else title ++ " > ".toList ++ heading)

end Lines

/-! ### Pieces -/

/-- A text cut where white space follows one of the marks that end a sentence. -/
def sentenceFragments (ended inGap : Bool) : Text → List Text
  | [] => [[]]
  | char :: rest =>
      if isSpace char && (ended || inGap) then
        if inGap then sentenceFragments false true rest
        else [] :: sentenceFragments false true rest
      else
        (sentenceFragments (char ∈ ['.', '!', '?', '۔']) false rest).modifyHead (char :: ·)

/-- `_split_sentences`, where the delimiters are white space and nothing of them is kept. -/
def splitSentences (text : Text) : List Text :=
  ((sentenceFragments false false text).map strip).filter (· ≠ [])

variable (tokenizer : Text → Nat) (maxTokens overlapTokens : Nat)

structure Splitting (α : Type) where
  pieces : List Text
  current : α
  currentTokens : Nat

/-- The body of the loop over sentences. -/
def addSentence (state : Splitting Text) (sentence : Text) : Splitting Text :=
  let flushed := if state.current = [] then state.pieces else state.pieces ++ [state.current]
  if maxTokens < tokenizer sentence then ⟨flushed ++ [sentence], [], 0⟩
  else if maxTokens < state.currentTokens + tokenizer sentence ∧ state.current ≠ [] then
    ⟨flushed, sentence, tokenizer sentence⟩
  else
    let current :=
      if state.current = [] then sentence else strip (state.current ++ ' ' :: sentence)
    ⟨state.pieces, current, tokenizer current⟩

/-- `_split_paragraph_at_sentences` -/
def splitParagraphAtSentences (text : Text) : List Text :=
  let final := (splitSentences text).foldl (addSentence tokenizer maxTokens) ⟨[], [], 0⟩
  if final.current = [] then final.pieces else final.pieces ++ [final.current]

/-- The body of the loop over rows, which are kept without the header. -/
def addRow (header : List Text) (headerTokens : Nat) (state : Splitting (List Text)) (row : Text) :
    Splitting (List Text) :=
  let flushed :=
    if state.current = [] then state.pieces
    else state.pieces ++ [join "\n" (header ++ state.current)]
  if maxTokens < tokenizer row then ⟨flushed ++ [join "\n" (header ++ [row])], [], headerTokens⟩
  else if maxTokens < state.currentTokens + tokenizer row ∧ state.current ≠ [] then
    ⟨flushed, [row], headerTokens + tokenizer row⟩
  else ⟨state.pieces, state.current ++ [row], state.currentTokens + tokenizer row⟩

/-- `_split_table` -/
def splitTable (text : Text) : List Text :=
  match splitlines text with
  | header :: separator :: row :: rows =>
      let headerTokens := tokenizer header + tokenizer separator
      let final := (row :: rows).foldl (addRow tokenizer maxTokens [header, separator] headerTokens)
        ⟨[], [], headerTokens⟩
      let pieces :=
        if final.current = [] then final.pieces
        else final.pieces ++ [join "\n" ([header, separator] ++ final.current)]
      if pieces = [] then [text] else pieces
  | _ => [text]

/-- The pieces an oversized block is expanded to. -/
def expand (block : Block) : List Block :=
  if tokenizer block.text ≤ maxTokens then [block]
  else
    let pieces :=
      match block.kind with
      | .table => splitTable tokenizer maxTokens block.text
      | .paragraph | .rule | .list => splitParagraphAtSentences tokenizer maxTokens block.text
      | .citation => [block.text]
    pieces.map fun piece => { block with text := piece }

/-! ### Chunks -/

/-- `_build_chunk_text` -/
def buildChunkText (blocks : List Block) (contextHeader : Text) : Text :=
  join "\n\n" ((if contextHeader = [] then [] else [contextHeader]) ++ blocks.map (·.text))

def contextHeader (blocks : List Block) : Text := (blocks.head?.map (·.headingPath)).getD []

/-- The text of the chunk that these blocks make. -/
def render (blocks : List Block) : Text := buildChunkText blocks (contextHeader blocks)

def chunkTokens (blocks : List Block) : Nat := tokenizer (render blocks)

/-- The inner loop of `_overlap_tail`, over the sentences of a block from the last. -/
def carrySentences : List Text → List Text → Nat → List Text × Nat
  | [], carried, tailTokens => (carried, tailTokens)
  | sentence :: sentences, carried, tailTokens =>
      if overlapTokens < tailTokens + tokenizer sentence ∧ carried ≠ [] then (carried, tailTokens)
      else carrySentences sentences (sentence :: carried) (tailTokens + tokenizer sentence)

/-- The outer loop, over the blocks from the last. -/
def carryBlocks : List Block → List Block → Nat → List Block
  | [], tailBlocks, _ => tailBlocks
  | block :: blocks, tailBlocks, tailTokens =>
      let (carried, tailTokens) :=
        carrySentences tokenizer overlapTokens (splitSentences block.text).reverse [] tailTokens
      let tailBlocks :=
        if carried = [] then tailBlocks
        else { block with text := join " " carried } :: tailBlocks
      if overlapTokens ≤ tailTokens then tailBlocks else carryBlocks blocks tailBlocks tailTokens

/-- `_overlap_tail` -/
def overlapTail (blocks : List Block) : List Block :=
  carryBlocks tokenizer overlapTokens (blocks.filter (·.kind ≠ .table)).reverse [] 0

structure KnowledgeChunk where
  chunkOrder : Nat
  text : Text
  tokenCount : Nat
  deriving DecidableEq, Repr

def makeChunk (chunks : List KnowledgeChunk) (blocks : List Block) : KnowledgeChunk :=
  ⟨chunks.length, render blocks, chunkTokens tokenizer blocks⟩

/-- The chunks that are made, and the blocks of the next. -/
structure Assembly where
  chunks : List KnowledgeChunk
  currentBlocks : List Block

/-- The body of the greedy loop: the overlap that `_flush` leaves pending is the start of the next
chunk. -/
def Assembly.add (state : Assembly) (block : Block) : Assembly :=
  let candidateBlocks := state.currentBlocks ++ [block]
  if state.currentBlocks ≠ [] ∧ maxTokens < chunkTokens tokenizer candidateBlocks then
    { chunks := state.chunks ++ [makeChunk tokenizer state.chunks state.currentBlocks]
      currentBlocks := overlapTail tokenizer overlapTokens state.currentBlocks ++ [block] }
  else { state with currentBlocks := candidateBlocks }

def Assembly.flush (state : Assembly) : List KnowledgeChunk :=
  if state.currentBlocks = [] then state.chunks
  else state.chunks ++ [makeChunk tokenizer state.chunks state.currentBlocks]

/-- The greedy assembly. -/
def assemble (blocks : List Block) : List KnowledgeChunk :=
  (blocks.foldl (Assembly.add tokenizer maxTokens overlapTokens) ⟨[], []⟩).flush tokenizer

/-- `MarkdownChunker.chunk` -/
def chunk (classes : Classes) (title body : Text) : List KnowledgeChunk :=
  assemble tokenizer maxTokens overlapTokens
    ((allBlocks classes title body).flatMap (expand tokenizer maxTokens))

end MarketMind.Knowledge.Chunker
