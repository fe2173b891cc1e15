import MarketMind.Publishing.CandidateIntakeSound
import MarketMind.Publishing.TarFormat
import MarketMind.Steps

/-!
Owns the archive of a manual export: its manifest, its texts and its media, and the names under
which the media stand in it.

Does not own the compression, the file that is written, nor where the bytes of the media are kept.
-/

namespace MarketMind.Publishing.Exports

open Contract Intake Tar Steps

def utf8 (text : String) : Bytes := text.toUTF8.data.toList

structure ArchiveEntry where
  name : String
  bytes : Bytes
deriving DecidableEq, Repr

inductive ExportError
  | notFound
  | assetUnavailable (message : String)
  | assetTampered (message : String)
  | pathTooLong (message : String)
  /-- The assets are no list. -/
  | failed
deriving DecidableEq, Repr

structure PublishingAssetRecord where
  bytes : Bytes
  mimeType : String
  checksum : String
deriving DecidableEq, Repr

/-- The reader of approved assets, the digest and the clock's text. -/
structure Services where
  readApprovedAsset : Json → Except ExportError (Option PublishingAssetRecord)
  sha256 : Bytes → String
  toISOString : Int → String

/-! ### `JSON.stringify` with an indent of two -/

/-- The parts on lines of their own. -/
def bracketed (opening closing : Char) (indent : Nat) (parts : List String) : String :=
  let line (indent : Nat) := "\n" ++ String.ofList (List.replicate indent ' ')
  match parts with
  | [] => String.ofList [opening, closing]
  | parts =>
      String.ofList [opening] ++ line (indent + 2) ++
        ("," ++ line (indent + 2)).intercalate parts ++ line indent ++ String.ofList [closing]

mutual

def pretty (indent : Nat) : Json → String
  | .array items => bracketed '[' ']' indent (prettyAll (indent + 2) items)
  | .object fields => bracketed '\x7b' '\x7d' indent (prettyFields (indent + 2) fields)
  | value => value.stringify

def prettyAll (indent : Nat) : List Json → List String
  | [] => []
  | item :: rest => pretty indent item :: prettyAll indent rest

def prettyFields (indent : Nat) : List (String × Json) → List String
  | [] => []
  | (name, value) :: rest =>
      (Json.quote name ++ ": " ++ pretty indent value) :: prettyFields indent rest

end

/-! ### The archive -/

/-- `UUID_PATTERN`, with its version and its variant. -/
def isArtifactId (text : String) : Bool :=
  isUuid (some (.string text)) &&
    (text.toList[14]?).any (['1', '2', '3', '4', '5'].contains ·) &&
    (text.toList[19]?).any (['8', '9', 'a', 'b', 'A', 'B'].contains ·)

def extensionForMime (mimeType : Option Json) : String :=
  if isText mimeType "image/png" then "png"
  else if isText mimeType "image/jpeg" then "jpg"
  else if isText mimeType "image/webp" then "webp"
  else "bin"

def archivePath (asset : Json) : String :=
  "media/" ++ textOf (property (some asset) "asset_id") ++ "." ++
    extensionForMime (property (some asset) "mime_type")

/-- The entry of an asset, when its bytes are those that were approved. -/
def mediaEntry (services : Services) (asset : Json) : Except ExportError ArchiveEntry := do
  let get := property (some asset)
  match ← services.readApprovedAsset asset with
  | none =>
      .error (.assetUnavailable ("PUBLISHING_ASSET_UNAVAILABLE: export asset " ++
        textOf (get "asset_id") ++ " is unavailable"))
  | some record =>
      if isText (get "checksum") (services.sha256 record.bytes) &&
          isText (get "checksum") record.checksum && isText (get "mime_type") record.mimeType then
        .ok ⟨archivePath asset, record.bytes⟩
      else
        .error (.assetTampered ("PUBLISHING_ASSET_TAMPERED: export asset " ++
          textOf (get "asset_id") ++ " does not match the approved candidate"))

/-- What the manifest says of an asset. -/
def manifestAsset (asset : Json) : Json :=
  let given name := (property (some asset) name).map (name, ·)
  .object ([given "asset_id", some ("archive_path", .string (archivePath asset)), given "mime_type",
    given "checksum"].filterMap id)

def manifest (services : Services) (artifactId intentId : String) (candidate : Fields)
    (assets : List Json) (generatedAt : Int) : Fields :=
  let given name := (Json.get candidate name).map (name, ·)
  let base := [some ("contract_version", .string "publishing-export-manifest-v1"),
    some ("artifact_id", .string artifactId), some ("intent_id", .string intentId),
    given "candidate_id", given "business_id", given "content_item_id",
    given "content_item_version_id", given "content_item_version", given "candidate_checksum",
    given "target_channel", given "content_format", given "selected_locale",
    some ("label", .string "EXPORTED_NOT_PUBLISHED"), given "recommended_publish_window",
    some ("generated_at", .string (services.toISOString generatedAt)),
    some ("assets", .array (assets.map manifestAsset))].filterMap id
  let checksum := services.sha256
    (utf8 (Json.stringify (.object (base ++ [("manifest_checksum", .string "")]))))
  base ++ [("manifest_checksum", .string checksum)]

/-- The entries that are written for the owner to read. -/
def textEntries (candidate manifest : Fields) : List ArchiveEntry :=
  let get := Json.get candidate
  let window := property (get "recommended_publish_window")
  let hashtags := match get "hashtags" with
    | some (.array tags) => tags.map fun tag => tag.text
    | _ => []
  [⟨"manifest.json", utf8 (pretty 0 (.object manifest) ++ "\n")⟩,
    ⟨if isText (get "selected_locale") "ar" then "caption-ar.txt" else "caption-en.txt",
      utf8 (textOf (get "caption") ++ "\n")⟩,
    ⟨"hashtags.txt", utf8 ("\n".intercalate hashtags ++ "\n")⟩,
    ⟨"alt-text.txt", utf8 (textOf (get "alt_text") ++ "\n")⟩,
    ⟨"posting-notes.txt", utf8 ("\n".intercalate [
      "Channel: " ++ textOf (get "target_channel"), "Format: " ++ textOf (get "content_format"),
      "Locale: " ++ textOf (get "selected_locale"),
      "Recommended start: " ++ textOf (window "starts_at"),
      "Recommended end: " ++ textOf (window "ends_at"), "Timezone: " ++ textOf (window "timezone"),
      "Owner action required: this export has not been published automatically.", ""])⟩,
    ⟨"README.txt", utf8 ("\n".intercalate ["MarketMind manual publishing export", "",
      "This checksum-addressed package contains the exact approved content and media.",
      "It is an export for manual owner posting, not proof of a remote publication.",
      "Verify manifest.json and every media checksum before posting.", ""])⟩]

/-- The header, the bytes and the zeros of an entry. -/
def entryBlock (mtime : Int) (entry : ArchiveEntry) : Except ExportError Bytes :=
  let nameBytes := utf8 entry.name
  if 100 < nameBytes.length then
    .error (.pathTooLong ("Export archive path is too long: " ++ entry.name))
  else
    let remainder := entry.bytes.length % 512
    .ok (header nameBytes entry.bytes.length mtime ++ entry.bytes ++
      if remainder ≠ 0 then alloc (512 - remainder) else [])

def buildTar (entries : List ArchiveEntry) (mtime : Int) : Except ExportError Bytes := do
  let chunks ← entries.mapM (entryBlock mtime)
  return chunks.flatten ++ alloc 1024

structure CreatedArchive where
  artifactId : String
  entries : List ArchiveEntry
  tar : Bytes
  destinationRef : String
  fileName : String
  manifest : Fields

def createArchive (services : Services) (artifactId intentId : String) (candidate : Fields)
    (generatedAt : Int) : Except ExportError CreatedArchive :=
  if isArtifactId artifactId then
    match Json.get candidate "assets" with
    | some (.array assets) => do
        let mediaEntries ← assets.mapM (mediaEntry services)
        let manifest := manifest services artifactId intentId candidate assets generatedAt
        let entries := textEntries candidate manifest ++ mediaEntries
        let tar ← buildTar entries (generatedAt / 1000)
        return {
          artifactId
          entries
          tar
          destinationRef := "publishing-export:" ++ artifactId
          fileName := artifactId ++ ".tar.gz"
          manifest }
    | _ => .error .failed
  else .error .notFound

/-! ### What is written is read back -/

section Reading

variable {mtime : Int} {entries : List ArchiveEntry} {tar : Bytes}

/-- The entry as a file of the format. -/
def ArchiveEntry.file (entry : ArchiveEntry) : Bytes × Bytes := (utf8 entry.name, entry.bytes)

theorem padding_eq (size : Nat) :
    (if size % 512 ≠ 0 then alloc (512 - size % 512) else []) = alloc (padding size) := by
  rw [padding]
  split
  · congr 1
    omega
  · next whole =>
    rw [not_ne_iff.mp whole]
    rfl

theorem entryBlock_ok (mtime : Int) (entry : ArchiveEntry) (chunk : Bytes) :
    entryBlock mtime entry = .ok chunk ↔
      (utf8 entry.name).length ≤ 100 ∧ chunk = block mtime entry.file := by
  unfold entryBlock
  dsimp only
  rw [padding_eq]
  split
  · next long =>
    constructor
    · intro absurdly
      cases absurdly
    · rintro ⟨short, -⟩
      omega
  · next short =>
    rw [Except.ok.injEq, eq_comm]
    exact (and_iff_right (by omega)).symm

theorem buildTar_ok : buildTar entries mtime = .ok tar ↔
    (∀ entry ∈ entries, (utf8 entry.name).length ≤ 100) ∧
      tar = (entries.map ArchiveEntry.file).flatMap (block mtime) ++ alloc 1024 := by
  unfold buildTar
  rw [bind_eq_ok, List.flatMap_map]
  constructor
  · rintro ⟨chunks, mapped, made⟩
    obtain ⟨short, rfl⟩ := (mapM_eq_ok_map (entryBlock_ok mtime)).mp mapped
    cases made
    exact ⟨short, rfl⟩
  · rintro ⟨short, rfl⟩
    exact ⟨_, (mapM_eq_ok_map (entryBlock_ok mtime)).mpr ⟨short, rfl⟩, rfl⟩

/-- An entry that the format has room for. -/
structure ArchiveEntry.IsWritable (entry : ArchiveEntry) : Prop where
  noZero : ∀ byte ∈ utf8 entry.name, byte ≠ 0
  sized : entry.bytes.length < 8 ^ 11

/-- A reader of the format finds the entries in an archive that was built of them. -/
theorem readTar_buildTar {seconds : Nat} (built : buildTar entries seconds = .ok tar)
    (writable : ∀ entry ∈ entries, entry.IsWritable) (timed : seconds < 8 ^ 11) :
    readTar tar = some (entries.map ArchiveEntry.file) ∧ tar.length % 512 = 0 := by
  obtain ⟨short, rfl⟩ := buildTar_ok.mp built
  refine readTar_archive timed fun file member => ?_
  obtain ⟨entry, among, rfl⟩ := List.mem_map.mp member
  exact ⟨short entry among, (writable entry among).noZero, (writable entry among).sized⟩

end Reading

/-! ### The names of the media -/

/-- What stands before and after the last separator. -/
theorem append_separator_inj {α : Type} {separator : α} {left right first second : List α}
    (notFirst : separator ∉ first) (notSecond : separator ∉ second)
    (same : left ++ separator :: first = right ++ separator :: second) :
    left = right ∧ first = second := by
  rcases List.append_eq_append_iff.mp same with ⟨between, rfl, rest⟩ | ⟨between, rfl, rest⟩
  · cases between with
    | nil => exact ⟨(List.append_nil _).symm, (List.cons.inj rest).2⟩
    | cons head between =>
        rw [(List.cons.inj rest).2] at notFirst
        exact absurd (List.mem_append_right between List.mem_cons_self) notFirst
  · cases between with
    | nil => exact ⟨List.append_nil _, (List.cons.inj rest).2.symm⟩
    | cons head between =>
        rw [(List.cons.inj rest).2] at notSecond
        exact absurd (List.mem_append_right between List.mem_cons_self) notSecond

theorem extension_plain (mimeType : Option Json) : '.' ∉ (extensionForMime mimeType).toList := by
  unfold extensionForMime
  repeat' split
  all_goals decide

/-- The assets would stand under one name. -/
def SameName (left right : Json) : Prop :=
  textOf (property (some left) "asset_id") = textOf (property (some right) "asset_id") ∧
    extensionForMime (property (some left) "mime_type") =
      extensionForMime (property (some right) "mime_type")

theorem archivePath_eq_iff {left right : Json} :
    archivePath left = archivePath right ↔ SameName left right := by
  constructor
  · intro same
    have texts := congrArg String.toList same
    simp only [archivePath, String.toList_append, List.append_assoc] at texts
    obtain ⟨sameId, sameExtension⟩ := append_separator_inj (extension_plain _) (extension_plain _)
      (List.append_cancel_left texts)
    exact ⟨String.toList_injective sameId, String.toList_injective sameExtension⟩
  · rintro ⟨sameId, sameExtension⟩
    rw [archivePath, archivePath, sameId, sameExtension]

/-- The entries that follow the texts. -/
def mediaOf (archive : CreatedArchive) : List ArchiveEntry := archive.entries.drop 6

/-- The entry holds the approved bytes of the asset. -/
def IsMediaOf (services : Services) (asset : Json) (entry : ArchiveEntry) : Prop :=
  entry.name = archivePath asset ∧
    isText (property (some asset) "checksum") (services.sha256 entry.bytes) = true

theorem mediaEntry_ok {services : Services} {asset : Json} {entry : ArchiveEntry}
    (made : mediaEntry services asset = .ok entry) : IsMediaOf services asset entry := by
  obtain ⟨found, -, goesOn⟩ := bind_eq_ok.mp made
  cases found with
  | none => cases goesOn
  | some record =>
      dsimp only at goesOn
      split at goesOn
      · next approved =>
        cases goesOn
        simp only [Bool.and_eq_true] at approved
        exact ⟨rfl, approved.1.1⟩
      · cases goesOn

section Archives

variable {services : Services} {artifactId intentId : String} {candidate : Fields}
  {generatedAt : Int} {archive : CreatedArchive}

theorem createArchive_ok
    (created : createArchive services artifactId intentId candidate generatedAt = .ok archive) :
    ∃ assets, Json.get candidate "assets" = some (.array assets) ∧
      List.Forall₂ (IsMediaOf services) assets (mediaOf archive) ∧
      buildTar archive.entries (generatedAt / 1000) = .ok archive.tar := by
  unfold createArchive at created
  split at created
  · split at created
    · next assets isArray =>
      obtain ⟨media, mapped, created⟩ := bind_eq_ok.mp created
      obtain ⟨tar, built, made⟩ := bind_eq_ok.mp created
      cases made
      exact ⟨assets, isArray, (mapM_eq_ok.mp mapped).imp fun asset entry isMade =>
        mediaEntry_ok isMade, built⟩
    · cases created
  · cases created

theorem names_of_media {assets : List Json} {media : List ArchiveEntry}
    (areMedia : List.Forall₂ (IsMediaOf services) assets media) :
    media.map (·.name) = assets.map archivePath := by
  induction areMedia with
  | nil => rfl
  | cons first rest inductionHypothesis =>
      rw [List.map_cons, List.map_cons, first.1, inductionHypothesis]

theorem nodup_names {assets : List Json} {media : List ArchiveEntry}
    (areMedia : List.Forall₂ (IsMediaOf services) assets media) :
    (media.map (·.name)).Nodup ↔ assets.Pairwise fun left right => ¬ SameName left right := by
  rw [names_of_media areMedia, List.Nodup, List.pairwise_map]
  simp only [ne_eq, archivePath_eq_iff]

/-- Archives are read back entry by entry. What is created for a candidate has one medium for each
asset; no two have one name exactly when no asset is listed twice. -/
theorem archives_read_back :
    (∀ (entries : List ArchiveEntry) (mtime : Nat),
      (∀ entry ∈ entries, entry.IsWritable ∧ (utf8 entry.name).length ≤ 100) → mtime < 8 ^ 11 →
      ∃ tar, buildTar entries mtime = .ok tar ∧
        readTar tar = some (entries.map fun entry => (utf8 entry.name, entry.bytes)) ∧
        tar.length % 512 = 0) ∧
    ∀ (services : Services) (artifactId intentId : String) (candidate : Fields)
      (generatedAt : Int) (archive : CreatedArchive),
      createArchive services artifactId intentId candidate generatedAt = .ok archive →
      ∃ assets, Json.get candidate "assets" = some (.array assets) ∧
        List.Forall₂ (IsMediaOf services) assets (mediaOf archive) ∧
        (((mediaOf archive).map (·.name)).Nodup ↔
          assets.Pairwise fun left right => ¬ SameName left right) ∧
        ∀ mtime : Nat, generatedAt / 1000 = mtime → mtime < 8 ^ 11 →
          (∀ entry ∈ archive.entries, entry.IsWritable) →
          readTar archive.tar = some (archive.entries.map fun entry =>
            (utf8 entry.name, entry.bytes)) := by
  refine ⟨fun entries mtime writable timed => ?_, ?_⟩
  · have built : buildTar entries mtime = .ok
        ((entries.map ArchiveEntry.file).flatMap (block mtime) ++ alloc 1024) :=
      buildTar_ok.mpr ⟨fun entry member => (writable entry member).2, rfl⟩
    exact ⟨_, built, readTar_buildTar built (fun entry member => (writable entry member).1) timed⟩
  · intro services artifactId intentId candidate generatedAt archive created
    obtain ⟨assets, isArray, areMedia, built⟩ := createArchive_ok created
    refine ⟨assets, isArray, areMedia, nodup_names areMedia, fun mtime seconds timed writable => ?_⟩
    rw [seconds] at built
    exact (readTar_buildTar built writable timed).1

end Archives

/-! ### An asset that is listed twice -/

/-- One asset, listed twice. -/
def logo : Json :=
  .object [("asset_id", .string "0b7e0c1a-0000-4000-8000-000000000009"),
    ("kind", .string "owner_supplied"), ("mime_type", .string "image/png"),
    ("storage_key", .string "assets/9.png"),
    ("checksum", .string "0f4636c78f65d3639ece5a064b5ae753e3408614a14fb18ab4d7540d2c248543")]

def repeatedCandidate : Fields :=
  (exampleCandidate "0b7e0c1a-0000-4000-8000-000000000001"
    "4ea0394ed2b6598c853f0a33c9ef47a36f8c7c52dd92f9151eb8dc69ea355c8e").map fun field =>
      if field.1 = "assets" then ("assets", .array [logo, logo])
      else if field.1 = "content_format" then ("content_format", .string "static_image_post")
      else if field.1 = "alt_text" then ("alt_text", .string "Logo")
      else field

/-- The digest is that of the candidate. -/
def repeatedHost : Host :=
  { exampleHost with
    sha256 := fun _ => "4ea0394ed2b6598c853f0a33c9ef47a36f8c7c52dd92f9151eb8dc69ea355c8e" }

theorem repeatedCandidate_accepted :
    validatePublicationCandidateV1 repeatedHost (some (.object repeatedCandidate)) = [] := by
  decide +kernel

/-- The digests are those of the logo and of the manifest. -/
def repeatedServices : Services where
  readApprovedAsset _ := .ok (some ⟨[137, 80, 78, 71], "image/png",
    "0f4636c78f65d3639ece5a064b5ae753e3408614a14fb18ab4d7540d2c248543"⟩)
  sha256 bytes :=
    if bytes = [137, 80, 78, 71] then
      "0f4636c78f65d3639ece5a064b5ae753e3408614a14fb18ab4d7540d2c248543"
    else "2e87c5a8370e49ae0408830f26bdcfa4cbcd528f113071d383f7191dedb54983"
  toISOString _ := "2026-07-02T10:00:00.000Z"

def exampleArtifact : String := "0b7e0c1a-0000-4000-8000-00000000000a"

/-- The names of the media of the repeated candidate's archive. -/
def repeatedNames : Option (List String) :=
  (createArchive repeatedServices exampleArtifact "0b7e0c1a-0000-4000-8000-00000000000b"
    repeatedCandidate 1782986400000).toOption.map fun archive => (mediaOf archive).map (·.name)

theorem repeatedNames_eq : repeatedNames =
    some ["media/0b7e0c1a-0000-4000-8000-000000000009.png",
      "media/0b7e0c1a-0000-4000-8000-000000000009.png"] := by
  decide +kernel

theorem repeatedArchive : ∃ archive,
    createArchive repeatedServices exampleArtifact "0b7e0c1a-0000-4000-8000-00000000000b"
      repeatedCandidate 1782986400000 = .ok archive ∧ ¬ ((mediaOf archive).map (·.name)).Nodup := by
  have names := repeatedNames_eq
  unfold repeatedNames at names
  cases created : createArchive repeatedServices exampleArtifact
      "0b7e0c1a-0000-4000-8000-00000000000b" repeatedCandidate 1782986400000 with
  | error error =>
      rw [created] at names
      cases names
  | ok archive =>
      rw [created] at names
      have same : (mediaOf archive).map (·.name) =
          ["media/0b7e0c1a-0000-4000-8000-000000000009.png",
            "media/0b7e0c1a-0000-4000-8000-000000000009.png"] := Option.some.inj names
      refine ⟨archive, rfl, ?_⟩
      rw [same]
      decide

/-- One text in an archive, and the archive of the repeated candidate. -/
theorem text_read_back :
    (∃ tar, buildTar [⟨"README.txt", [104, 105]⟩] (1782986400 : Nat) = .ok tar ∧
      readTar tar = some [(utf8 "README.txt", [104, 105])] ∧ tar.length % 512 = 0) ∧
    ∃ archive assets, Json.get repeatedCandidate "assets" = some (.array assets) ∧
      List.Forall₂ (IsMediaOf repeatedServices) assets (mediaOf archive) := by
  obtain ⟨archive, created, -⟩ := repeatedArchive
  obtain ⟨assets, isArray, areMedia, -⟩ := archives_read_back.2 _ _ _ _ _ archive created
  refine ⟨archives_read_back.1 [⟨"README.txt", [104, 105]⟩] 1782986400 ?_ (by decide), archive,
    assets, isArray, areMedia⟩
  intro entry member
  rw [List.mem_singleton.mp member]
  exact ⟨⟨by decide +kernel, by decide⟩, by decide +kernel⟩

/-- An accepted candidate whose archive has two media under one name. -/
theorem repeated_asset_repeats_name :
    ¬ ∀ (host : Host) (services : Services) (artifactId intentId : String) (candidate : Fields)
      (generatedAt : Int) (archive : CreatedArchive),
      validatePublicationCandidateV1 host (some (.object candidate)) = [] →
      createArchive services artifactId intentId candidate generatedAt = .ok archive →
      ((mediaOf archive).map (·.name)).Nodup := by
  intro claimed
  obtain ⟨archive, created, repeats⟩ := repeatedArchive
  exact repeats (claimed repeatedHost _ _ _ _ _ archive repeatedCandidate_accepted created)

end MarketMind.Publishing.Exports
