import Extrittio.Blueprints.Repository
import Extrittio.Contract.Closure
import Extrittio.Contract.Compatibility
import Extrittio.Library.Run

/-!
Publication of a blueprint. A publication reads the draft, then the latest
revision, and is committed in a later transaction, so that other publications and
draft replacements run in between. What the stored revisions are after any such
run.
-/
namespace Extrittio

open Transition List Option BlueprintStore

/-- What publication takes from other crates. -/
structure BlueprintCodec where
  /-- `serde_json::from_value` of a document, or its error. -/
  fromValue : Json → Except String DeviceBlueprint
  /-- The digest of the canonical document. -/
  documentHash : DeviceBlueprint → Except ContractError String
  /-- `serde_json::to_value`. -/
  toValue : Compatibility → Json

def ValidationIssue.text (issue : ValidationIssue) : String := s!"{issue.path}: {issue.message}"

def ContractError.message : ContractError → String
  | .invalidBlueprint count _ => s!"blueprint is invalid ({count} issue(s))"
  | .invalidInstance count _ => s!"instance does not satisfy schema ({count} issue(s))"
  | .serialization message => s!"failed to serialize canonical contract: {message}"
  | .missingTransportBinding binding => s!"transport binding '{binding}' was not provided"
  | .invalidContext message => s!"invalid compile context: {message}"

namespace DeviceBlueprintApplication

variable (p : Platform) (codec : BlueprintCodec)

def parseDocument (document : Json) : Except ApplicationError DeviceBlueprint :=
  (codec.fromValue document).mapError fun e =>
    .invalidInput s!"Invalid blueprint document: {e}"

def validateDocument (document : Json) : Except ApplicationError (ValidatedBlueprint p) := do
  let blueprint ← parseDocument codec document
  (validateBlueprint p blueprint).mapError fun e =>
    let details := "; ".intercalate (((Blueprint.validationIssues e).getD []).map (·.text))
    .invalidOperation s!"Blueprint validation failed: {details}"

def validateDraftIdentity (blueprint : DeviceBlueprint) : Except ApplicationError Unit := do
  if blueprint.metadata.key.toList.all isWhitespace ∨ 64 < blueprint.metadata.key.utf8ByteSize then
    throw (.invalidInput "Blueprint metadata.key must contain 1-64 bytes")
  if blueprint.metadata.name.toList.all isWhitespace ∨ 128 < blueprint.metadata.name.utf8ByteSize then
    throw (.invalidInput "Blueprint metadata.name must contain 1-128 bytes")

def mapUniqueKey : PersistenceError → ApplicationError
  | .uniqueViolation _ => .conflict "A device blueprint with this key already exists"
  | other => .persistence other

variable (s : BlueprintStore) (tenant blueprintId : String)

def replaceDraft (document : Json) (now : ℤ) :
    Except ApplicationError (BlueprintStore × BlueprintDraftRecord) := do
  let blueprint ← parseDocument codec document
  validateDraftIdentity blueprint
  let (s, draft) ← (s.replaceDraft tenant blueprintId
    ⟨blueprint.metadata.key, blueprint.metadata.name, blueprint.metadata.description, document,
      now⟩).mapError mapUniqueKey
  match draft with
  | some draft => return (s, draft)
  | none => throw (.notFound s!"Device blueprint '{blueprintId}' not found")

/-- The first read of a publication: the draft, which is validated. -/
def readDraft : Except ApplicationError (BlueprintDraftRecord × ValidatedBlueprint p) :=
  match s.getDraft tenant blueprintId with
  | none => .error (.notFound s!"Device blueprint '{blueprintId}' not found")
  | some draft => (validateDocument p codec draft.document).map fun validated => (draft, validated)

/-- The comparison with the latest revision; a first one is compared with nothing. -/
def compatibilityWith (previous : Option BlueprintRevisionRecord) (validated : ValidatedBlueprint p) :
    Except ApplicationError Compatibility :=
  match previous with
  | some previous =>
    match validateDocument p codec previous.document with
    | .ok previous => .ok (Blueprint.compareBlueprints previous validated)
    | .error e => .error (.internal s!"stored blueprint revision is invalid: {e.message}")
  | none => .ok ⟨false, []⟩

def prepare (draft : BlueprintDraftRecord) (validated : ValidatedBlueprint p) (revisionId : String)
    (now : ℤ) : Except ApplicationError PublishBlueprintRecord := do
  let previous := s.latestRevision tenant blueprintId
  let compatibility ← compatibilityWith p codec previous validated
  let documentHash ← (codec.documentHash validated.blueprint).mapError fun e =>
    .internal s!"failed to canonicalize validated blueprint: {e.message}"
  return {
    revisionId
    expectedPreviousRevisionId := previous.map (·.id)
    expectedDraftUpdatedAt := draft.updatedAt
    document := draft.document
    documentHash
    compatibility := codec.toValue compatibility
    now }

def reply : PublishBlueprintOutcome → Except ApplicationError BlueprintRevisionRecord
  | .published revision => .ok revision
  | .blueprintNotFound => .error (.notFound s!"Device blueprint '{blueprintId}' not found")
  | .publicationChanged =>
    .error (.conflict "Blueprint publication changed concurrently; publish it again")
  | .draftChanged => .error (.conflict
      "Blueprint draft changed during publication; validate and publish it again")

def publish (revisionId : String) (now : ℤ) :
    Except ApplicationError (BlueprintStore × BlueprintRevisionRecord) := do
  let (draft, validated) ← readDraft p codec s tenant blueprintId
  let record ← prepare p codec s tenant blueprintId draft validated revisionId now
  let (s, outcome) ← liftPersistence (s.publish tenant blueprintId record)
  let revision ← reply blueprintId outcome
  return (s, revision)

end DeviceBlueprintApplication

/-- A publication that has read the draft, or is ready to be committed. -/
inductive Publication (p : Platform) where
  | drafted (tenant blueprintId : String) (draft : BlueprintDraftRecord)
      (validated : ValidatedBlueprint p)
  | prepared (tenant blueprintId : String) (record : PublishBlueprintRecord)

structure BlueprintSystem (p : Platform) where
  store : BlueprintStore
  publications : List (Publication p)

inductive BlueprintStep where
  | replaceDraft (tenant blueprintId : String) (document : Json) (now : ℤ)
  | readDraft (tenant blueprintId : String)
  | readLatest (index : ℕ) (revisionId : String) (now : ℤ)
  | commit (index : ℕ)

namespace BlueprintSystem

open DeviceBlueprintApplication

variable {p : Platform} (codec : BlueprintCodec)

/-- One step of a caller; an operation that fails ends its publication. -/
def apply (sys : BlueprintSystem p) : BlueprintStep → BlueprintSystem p
  | .replaceDraft tenant blueprintId document now =>
    match DeviceBlueprintApplication.replaceDraft codec sys.store tenant blueprintId document now with
    | .ok (store, _) => { sys with store }
    | .error _ => sys
  | .readDraft tenant blueprintId =>
    match readDraft p codec sys.store tenant blueprintId with
    | .ok (draft, validated) =>
      { sys with publications := sys.publications ++ [.drafted tenant blueprintId draft validated] }
    | .error _ => sys
  | .readLatest index revisionId now =>
    match sys.publications[index]? with
    | some (.drafted tenant blueprintId draft validated) =>
      match prepare p codec sys.store tenant blueprintId draft validated revisionId now with
      | .ok record =>
        { sys with publications := sys.publications.set index (.prepared tenant blueprintId record) }
      | .error _ => { sys with publications := sys.publications.eraseIdx index }
    | _ => sys
  | .commit index =>
    match sys.publications[index]? with
    | some (.prepared tenant blueprintId record) =>
      match sys.store.publish tenant blueprintId record with
      | .ok (store, _) => ⟨store, sys.publications.eraseIdx index⟩
      | .error _ => { sys with publications := sys.publications.eraseIdx index }
    | _ => sys

def machine (p : Platform) : Machine (BlueprintSystem p) BlueprintStep := ⟨fun _ _ => True, apply codec⟩

/-! What the revisions of a blueprint keep. -/

/-- The stored compatibility of a revision is its comparison with the one before. -/
def ComparedWith (p : Platform) (previous next : BlueprintRevisionRow) : Prop :=
  ∃ old new, validateDocument p codec previous.document = .ok old ∧
    validateDocument p codec next.document = .ok new ∧
    next.compatibility = codec.toValue (Blueprint.compareBlueprints old new)

/-- The document of a revision was validated, and its hash is that of the document. -/
def Validated (p : Platform) (row : BlueprintRevisionRow) : Prop :=
  ∃ validated, validateDocument p codec row.document = .ok validated ∧
    codec.documentHash validated.blueprint = .ok row.documentHash

structure Chronicle (p : Platform) (rows : List BlueprintRevisionRow) : Prop where
  numbered : rows.map (·.revision) = List.range' 1 rows.length
  validated : ∀ row ∈ rows, Validated codec p row
  first : ∀ row, rows.head? = some row → row.compatibility = codec.toValue ⟨false, []⟩
  compared : rows.IsChain (ComparedWith codec p)

/-- What a publication relies on when it is committed. -/
def Ready (s : BlueprintStore) : Publication p → Prop
  | .drafted _ _ draft validated => validateDocument p codec draft.document = .ok validated
  | .prepared tenant blueprintId record =>
    ∃ validated, validateDocument p codec record.document = .ok validated ∧
      codec.documentHash validated.blueprint = .ok record.documentHash ∧
      match record.expectedPreviousRevisionId with
      | none => record.compatibility = codec.toValue ⟨false, []⟩
      | some id => ∃ previous ∈ s.revisionRows tenant blueprintId, previous.id = id ∧
          ∃ old, validateDocument p codec previous.document = .ok old ∧
            record.compatibility = codec.toValue (Blueprint.compareBlueprints old validated)

structure Invariant (tenant blueprintId : String) (sys : BlueprintSystem p) : Prop where
  chronicle : Chronicle codec p (sys.store.revisionRows tenant blueprintId)
  ready : ∀ publication ∈ sys.publications, Ready codec sys.store publication

variable {codec} {sys : BlueprintSystem p} {s t : BlueprintStore} {tenant blueprintId : String}

theorem Chronicle.nil : Chronicle codec p [] where
  numbered := rfl
  validated := fun _ hrow => absurd hrow not_mem_nil
  first := fun _ hrow => absurd hrow (some_ne_none _).symm
  compared := .nil

/-- In the order of insertion the last revision is the latest. -/
theorem Chronicle.latestRow_eq (h : Chronicle codec p (s.revisionRows tenant blueprintId)) :
    s.latestRow tenant blueprintId = (s.revisionRows tenant blueprintId).getLast? := by
  have hsorted : (s.revisionRows tenant blueprintId).Pairwise fun a b => a.revision ≤ b.revision := by
    have hrange := pairwise_le_range' (s := 1) (n := (s.revisionRows tenant blueprintId).length)
    rw [← h.numbered] at hrange
    exact pairwise_map.mp hrange
  rw [latestRow, Relational.orderBy, List.Pairwise.insertionSort_eq hsorted]

theorem foldr_max_range' (start length : ℕ) :
    (List.range' start length).foldr max 0 = if length = 0 then 0 else start + length - 1 := by
  induction length generalizing start with
  | zero => rfl
  | succ length ih =>
    rw [range'_succ, foldr_cons, ih, if_neg length.succ_ne_zero]
    split_ifs <;> omega

theorem Chronicle.nextRevision_eq (h : Chronicle codec p (s.revisionRows tenant blueprintId)) :
    s.nextRevision tenant blueprintId = (s.revisionRows tenant blueprintId).length + 1 := by
  rw [nextRevision, h.numbered, foldr_max_range']
  split_ifs <;> omega

theorem Ready.mono {publication : Publication p} (h : Ready codec s publication)
    (hgrows : ∀ tenant blueprintId,
      s.revisionRows tenant blueprintId <+: t.revisionRows tenant blueprintId) :
    Ready codec t publication := by
  cases publication with
  | drafted => exact h
  | prepared tenant blueprintId record =>
    obtain ⟨validated, hvalid, hhash, hprevious⟩ := h
    refine ⟨validated, hvalid, hhash, ?_⟩
    cases hid : record.expectedPreviousRevisionId with
    | none => simpa only [hid] using hprevious
    | some id =>
      simp only [hid] at hprevious
      obtain ⟨previous, hmem, hrest⟩ := hprevious
      exact ⟨previous, (hgrows tenant blueprintId).subset hmem, hrest⟩

variable {draft : BlueprintDraftRecord} {record : PublishBlueprintRecord}
  {latest : BlueprintRevisionRow}

theorem ready_of_readDraft {validated : ValidatedBlueprint p}
    (h : readDraft p codec s tenant blueprintId = .ok (draft, validated)) :
    Ready codec s (.drafted tenant blueprintId draft validated) := by
  rw [readDraft] at h
  split at h
  · cases h
  · rename_i found hfound
    cases hvalid : validateDocument p codec found.document with
    | error e => rw [hvalid] at h; cases h
    | ok value =>
      rw [hvalid] at h
      cases h
      exact hvalid

theorem ready_of_prepare {validated : ValidatedBlueprint p} {revisionId : String} {now : ℤ}
    (hdraft : validateDocument p codec draft.document = .ok validated)
    (h : prepare p codec s tenant blueprintId draft validated revisionId now = .ok record) :
    Ready codec s (Publication.prepared (p := p) tenant blueprintId record) := by
  obtain ⟨compatibility, hcompatibility, h⟩ := of_bind_ok h
  obtain ⟨hash, hhash, h⟩ := of_bind_ok h
  cases h
  refine ⟨validated, hdraft, mapError_eq_ok.mp hhash, ?_⟩
  cases hlatest : s.latestRow tenant blueprintId with
  | none =>
    simp only [latestRevision, hlatest, map_none] at hcompatibility ⊢
    rw [compatibilityWith] at hcompatibility
    cases hcompatibility
    rfl
  | some previous =>
    simp only [latestRevision, hlatest, map_some, compatibilityWith]
      at hcompatibility ⊢
    obtain ⟨hmem, -⟩ := Relational.getLast?_orderBy hlatest
    split at hcompatibility
    · rename_i old hold
      cases hcompatibility
      exact ⟨previous, hmem, rfl, old, hold, rfl⟩
    · cases hcompatibility

variable (codec) in
/-- What a step does to the revisions: nothing, or it commits a publication. -/
theorem revisions_apply (sys : BlueprintSystem p) (step : BlueprintStep) :
    (apply codec sys step).store.revisions = sys.store.revisions ∨
      ∃ tenant blueprintId record,
        Publication.prepared tenant blueprintId record ∈ sys.publications ∧
        (∃ draft, sys.store.getDraft tenant blueprintId = some draft ∧
          draft.document = record.document) ∧
        (sys.store.latestRow tenant blueprintId).map (·.id) = record.expectedPreviousRevisionId ∧
        (apply codec sys step).store.revisions.rows =
          sys.store.revisions.rows ++ [sys.store.revisionFor tenant blueprintId record] := by
  cases step with
  | replaceDraft tenant blueprintId document now =>
    refine .inl ?_
    simp only [apply]
    split
    · rename_i store draft h
      obtain ⟨blueprint, -, h⟩ := of_bind_ok h
      obtain ⟨_, -, h⟩ := of_bind_ok h
      obtain ⟨⟨replaced, found⟩, hreplaced, h⟩ := of_bind_ok h
      have hrevisions := revisions_of_replaceDraft
        (mapError_eq_ok.mp hreplaced)
      cases found with
      | none => cases h
      | some found =>
        cases h
        exact hrevisions
    · rfl
  | readDraft tenant blueprintId =>
    refine .inl ?_
    simp only [apply]
    split <;> rfl
  | readLatest index revisionId now =>
    refine .inl ?_
    simp only [apply]
    split
    · split <;> rfl
    · rfl
  | commit index =>
    simp only [apply]
    split
    · rename_i tenant blueprintId record hindex
      split
      · rename_i store outcome hpublish
        rcases publish_cases hpublish with rfl | ⟨hdraft, hlatest, -, hrows⟩
        · exact .inl rfl
        · exact .inr ⟨tenant, blueprintId, record, mem_of_getElem? hindex, hdraft, hlatest, hrows⟩
      · exact .inl rfl
    · exact .inl rfl

theorem publications_apply {step : BlueprintStep}
    (h : ∀ publication ∈ sys.publications, Ready codec sys.store publication) :
    ∀ publication ∈ (apply codec sys step).publications, Ready codec sys.store publication := by
  intro publication hmem
  cases step with
  | replaceDraft tenant blueprintId document now =>
    simp only [apply] at hmem
    split at hmem <;> exact h publication hmem
  | readDraft tenant blueprintId =>
    simp only [apply] at hmem
    split at hmem
    · rename_i draft validated hread
      rcases mem_append.mp hmem with hmem | hmem
      · exact h publication hmem
      · obtain rfl := mem_singleton.mp hmem
        exact ready_of_readDraft hread
    · exact h publication hmem
  | readLatest index revisionId now =>
    simp only [apply] at hmem
    split at hmem
    · rename_i tenant blueprintId draft validated hindex
      have hdraft := h _ (mem_of_getElem? hindex)
      split at hmem
      · rename_i record hprepare
        rcases mem_or_eq_of_mem_set hmem with hmem | rfl
        · exact h publication hmem
        · exact ready_of_prepare hdraft hprepare
      · exact h publication (mem_of_mem_eraseIdx hmem)
    · exact h publication hmem
  | commit index =>
    simp only [apply] at hmem
    split at hmem
    · split at hmem <;> exact h publication (mem_of_mem_eraseIdx hmem)
    · exact h publication hmem

theorem revisionRows_apply (sys : BlueprintSystem p) (step : BlueprintStep) :
    sys.store.revisionRows tenant blueprintId <+:
      (apply codec sys step).store.revisionRows tenant blueprintId := by
  rcases revisions_apply codec sys step with hsame | ⟨t, b, record, -, -, -, hrows⟩
  · rw [revisionRows, revisionRows, hsame]
  · rw [revisionRows_append hrows]
    exact prefix_append _ _

/-- A publication that is committed on the revision it was compared with continues the
chronicle. -/
theorem Chronicle.commit (h : Chronicle codec p (s.revisionRows tenant blueprintId))
    (hready : Ready codec s (Publication.prepared (p := p) tenant blueprintId record))
    (hlatest : (s.latestRow tenant blueprintId).map (·.id) = record.expectedPreviousRevisionId) :
    Chronicle codec p
      (s.revisionRows tenant blueprintId ++ [s.revisionFor tenant blueprintId record]) := by
  obtain ⟨validated, hvalid, hhash, hprevious⟩ := hready
  rw [h.latestRow_eq] at hlatest
  constructor
  · rw [map_append, h.numbered, length_append, length_singleton, map_singleton,
      range'_concat]
    simp [revisionFor, h.nextRevision_eq, Nat.add_comm]
  · intro row hrow
    rcases mem_append.mp hrow with hrow | hrow
    · exact h.validated row hrow
    · obtain rfl := mem_singleton.mp hrow
      exact ⟨validated, hvalid, hhash⟩
  · intro row hrow
    cases hrows : s.revisionRows tenant blueprintId with
    | nil =>
      rw [hrows] at hlatest hrow
      cases hrow
      rw [← hlatest] at hprevious
      exact hprevious
    | cons head tail =>
      rw [hrows] at hrow
      exact h.first row (hrows ▸ hrow)
  · refine h.compared.append (.singleton _) fun previous hlast next hnext => ?_
    cases hnext
    rw [hlast, map_some] at hlatest
    simp only [← hlatest] at hprevious
    obtain ⟨found, hfound, hid, old, hold, hcompatibility⟩ := hprevious
    have hsame : found = previous := s.revisions.eq_of_key_eq
      (mem_revisionRows.mp hfound).1
      (mem_revisionRows.mp (mem_of_getLast? hlast)).1 hid
    exact ⟨old, validated, hsame ▸ hold, hvalid, hcompatibility⟩

theorem Invariant.step (h : Invariant codec tenant blueprintId sys) (step : BlueprintStep) :
    Invariant codec tenant blueprintId (apply codec sys step) := by
  constructor
  · rcases revisions_apply codec sys step with
      hsame | ⟨otherTenant, otherId, record, hmem, -, hlatest, hrows⟩
    · rw [revisionRows, hsame]
      exact h.chronicle
    · rw [revisionRows_append hrows]
      split_ifs with hown
      · obtain ⟨rfl, rfl⟩ := hown
        exact h.chronicle.commit (h.ready _ hmem) hlatest
      · rw [append_nil]
        exact h.chronicle
  · intro publication hmem
    exact (publications_apply h.ready publication hmem).mono fun _ _ => revisionRows_apply sys step

/-- Whatever runs in between, a document that is the latest revision is not published a
second time. -/
theorem Invariant.publish_again (h : Invariant codec tenant blueprintId sys)
    (hmem : Publication.prepared tenant blueprintId record ∈ sys.publications)
    (hdraft : sys.store.getDraft tenant blueprintId = some draft)
    (hlatest : sys.store.latestRow tenant blueprintId = some latest)
    (hdocument : latest.document = record.document) :
    sys.store.publish tenant blueprintId record = .ok (sys.store,
      if draft.updatedAt = record.expectedDraftUpdatedAt ∧ draft.document = record.document then
        .published latest.decode else .draftChanged) := by
  obtain ⟨validated, hvalid, hhash, -⟩ := h.ready _ hmem
  obtain ⟨stored, hstored, hstoredHash⟩ :=
    h.chronicle.validated latest (Relational.getLast?_orderBy hlatest).1
  rw [hdocument, hvalid] at hstored
  cases hstored
  exact publish_of_latest hdraft hlatest hdocument
    (Except.ok.inj (hstoredHash.symm.trans hhash))

theorem Invariant.publish_unchanged (h : Invariant codec tenant blueprintId sys)
    (hdraft : sys.store.getDraft tenant blueprintId = some draft)
    (hlatest : sys.store.latestRow tenant blueprintId = some latest)
    (hdocument : latest.document = draft.document) (revisionId : String) (now : ℤ) :
    DeviceBlueprintApplication.publish p codec sys.store tenant blueprintId revisionId now =
      .ok (sys.store, latest.decode) := by
  obtain ⟨validated, hvalid, hhash⟩ :=
    h.chronicle.validated latest (Relational.getLast?_orderBy hlatest).1
  have hread : readDraft p codec sys.store tenant blueprintId = .ok (draft, validated) := by
    rw [readDraft, hdraft]
    simp only [← hdocument, hvalid]
    rfl
  let record : PublishBlueprintRecord :=
    ⟨revisionId, some latest.id, draft.updatedAt, draft.document, latest.documentHash,
      codec.toValue (Blueprint.compareBlueprints validated validated), now⟩
  have hprepare : prepare p codec sys.store tenant blueprintId draft validated revisionId now =
      .ok record := by
    have hcompatibility : compatibilityWith p codec (some latest.decode) validated =
        .ok (Blueprint.compareBlueprints validated validated) := by
      rw [compatibilityWith, show latest.decode.document = latest.document from rfl, hvalid]
    rw [prepare, latestRevision, hlatest, map_some, hcompatibility, hhash]
    rfl
  have hpublish : sys.store.publish tenant blueprintId record =
      .ok (sys.store, .published latest.decode) := by
    rw [publish_of_latest hdraft hlatest hdocument rfl, if_pos ⟨rfl, rfl⟩]
  rw [DeviceBlueprintApplication.publish, hread]
  simp only [bind, Except.bind, hprepare, hpublish, liftPersistence, reply]
  rfl

/-- A revision that a run has added was the draft of the blueprint at some time. -/
theorem exists_draft_of_run {sys sys' : BlueprintSystem p} {steps : List BlueprintStep}
    (h : (machine codec p).Run sys steps sys') {row : BlueprintRevisionRow}
    (hrow : row ∈ sys'.store.revisionRows tenant blueprintId) :
    row ∈ sys.store.revisionRows tenant blueprintId ∨
      ∃ earlier before after, steps = before ++ after ∧ (machine codec p).Run sys before earlier ∧
        (machine codec p).Run earlier after sys' ∧
        (earlier.store.getDraft tenant blueprintId).map (·.document) = some row.document := by
  induction h with
  | nil => exact .inl hrow
  | @cons sys last step steps henabled hrest ih =>
    rcases ih hrow with hrow | ⟨earlier, before, after, rfl, hbefore, hafter, hdraft⟩
    · rcases revisions_apply codec sys step with
        hsame | ⟨otherTenant, otherId, record, -, ⟨draft, hdraft, hdocument⟩, -, hrows⟩
      · exact .inl (by rwa [revisionRows, ← hsame])
      · rw [show (machine codec p).apply sys step = apply codec sys step from rfl,
          revisionRows_append hrows] at hrow
        rcases mem_append.mp hrow with hrow | hrow
        · exact .inl hrow
        · split_ifs at hrow with hown
          · obtain rfl := mem_singleton.mp hrow
            obtain ⟨rfl, rfl⟩ := hown
            refine .inr ⟨sys, [], step :: steps, rfl, .nil sys, .cons henabled hrest, ?_⟩
            rw [show (sys.store.revisionFor otherTenant otherId record).tenantId = otherTenant
              from rfl, show (sys.store.revisionFor otherTenant otherId record).blueprintId = otherId
              from rfl, hdraft]
            exact congrArg some hdocument
          · cases hrow
    · exact .inr ⟨earlier, step :: before, after, rfl, .cons henabled hbefore, hafter, hdraft⟩

section

open BlueprintCompiler in
/-- Documents are known by the names of their blueprints. -/
def byName : BlueprintCodec where
  fromValue
    | .string "Tracker" => .ok tracker
    | .string "Locator" => .ok { tracker with metadata := { tracker.metadata with name := "Locator" } }
    | _ => .error "unknown document"
  documentHash blueprint := .ok (String.ofList (blueprint.metadata.name.toList.take 1 ++
    List.replicate 63 '0'))
  toValue compatibility := .bool compatibility.breaking

def unpublished : BlueprintStore where
  blueprints := ⟨[⟨"blueprint", "acme", "tracker", "Tracker", none, 0, 0⟩], by decide⟩
  drafts := ⟨[⟨"draft", "acme", "blueprint", .string "Tracker", 0, 0⟩], by decide⟩
  revisions := .empty

/-- Two callers publish at once; one of them finds the draft changed. -/
def callers : List BlueprintStep :=
  [.readDraft "acme" "blueprint", .readLatest 0 "first" 1000, .readDraft "acme" "blueprint",
    .commit 0, .readLatest 0 "other" 1500, .replaceDraft "acme" "blueprint" (.string "Locator") 2000,
    .commit 0, .readDraft "acme" "blueprint", .readLatest 0 "second" 3000, .commit 0,
    .readDraft "acme" "blueprint", .readLatest 0 "third" 4000, .commit 0]

def published : BlueprintSystem default := callers.foldl (apply byName) ⟨unpublished, []⟩

end

end BlueprintSystem

end Extrittio
