import Extrittio.Library.OrderBy
import Extrittio.Library.Table
import Extrittio.Platform

/-!
The tables of device blueprints: one draft for each blueprint, which is replaced
in place, and its published revisions. A publication names the draft and the
latest revision that it was prepared from, and is committed only on them.
-/
namespace Extrittio

open Relational

/-- `device_blueprints`. -/
structure BlueprintRow where
  id : String
  tenantId : String
  blueprintKey : String
  name : String
  description : Option String
  createdAt : ℤ
  updatedAt : ℤ
  deriving DecidableEq

/-- `device_blueprint_drafts`. -/
structure BlueprintDraftRow where
  id : String
  tenantId : String
  blueprintId : String
  document : Json
  createdAt : ℤ
  updatedAt : ℤ
  deriving DecidableEq

/-- `device_blueprint_revisions`. -/
structure BlueprintRevisionRow where
  id : String
  tenantId : String
  blueprintId : String
  revision : ℕ
  document : Json
  documentHash : String
  compatibility : Json
  createdAt : ℤ
  deriving DecidableEq

structure BlueprintDraftRecord where
  id : String
  blueprintId : String
  document : Json
  createdAt : ℤ
  updatedAt : ℤ
  deriving DecidableEq

structure BlueprintRevisionRecord where
  id : String
  blueprintId : String
  revision : ℕ
  document : Json
  documentHash : String
  compatibility : Json
  createdAt : ℤ
  deriving DecidableEq

def BlueprintDraftRow.decode (row : BlueprintDraftRow) : BlueprintDraftRecord :=
  ⟨row.id, row.blueprintId, row.document, datetime row.createdAt, datetime row.updatedAt⟩

def BlueprintRevisionRow.decode (row : BlueprintRevisionRow) : BlueprintRevisionRecord :=
  ⟨row.id, row.blueprintId, row.revision, row.document, row.documentHash, row.compatibility,
    datetime row.createdAt⟩

structure ReplaceBlueprintDraftRecord where
  key : String
  name : String
  description : Option String
  document : Json
  now : ℤ

structure PublishBlueprintRecord where
  revisionId : String
  /-- The latest revision used to compute compatibility. -/
  expectedPreviousRevisionId : Option String
  expectedDraftUpdatedAt : ℤ
  document : Json
  documentHash : String
  compatibility : Json
  now : ℤ

inductive PublishBlueprintOutcome where
  | published (revision : BlueprintRevisionRecord)
  | blueprintNotFound
  | draftChanged
  | publicationChanged
  deriving DecidableEq

structure BlueprintStore where
  blueprints : Table BlueprintRow (·.id)
  drafts : Table BlueprintDraftRow fun r => (r.tenantId, r.blueprintId)
  revisions : Table BlueprintRevisionRow (·.id)

namespace BlueprintStore

variable (s : BlueprintStore) (tenant blueprintId : String)

def getDraft : Option BlueprintDraftRecord :=
  (s.drafts.find? (tenant, blueprintId)).map BlueprintDraftRow.decode

def revisionRows : List BlueprintRevisionRow :=
  s.revisions.rows.filter fun row => row.tenantId = tenant ∧ row.blueprintId = blueprintId

def latestRow : Option BlueprintRevisionRow :=
  (orderBy (·.revision) (s.revisionRows tenant blueprintId)).getLast?

def latestRevision : Option BlueprintRevisionRecord :=
  (s.latestRow tenant blueprintId).map BlueprintRevisionRow.decode

def replaceDraft (record : ReplaceBlueprintDraftRecord) :
    Except PersistenceError (BlueprintStore × Option BlueprintDraftRecord) :=
  if s.blueprints.rows.all fun row => ¬(row.tenantId = tenant ∧ row.id = blueprintId) then .ok (s, none)
  else if s.blueprints.rows.any fun row =>
      row.tenantId = tenant ∧ row.id ≠ blueprintId ∧ row.blueprintKey = record.key then
    .error (.uniqueViolation "device_blueprints.tenant_id, device_blueprints.blueprint_key")
  else
    let blueprints := s.blueprints.update
      (fun row => row.tenantId = tenant ∧ row.id = blueprintId)
      (fun row => { row with
        blueprintKey := record.key, name := record.name, description := record.description
        updatedAt := timestampMicros record.now })
      fun _ => rfl
    let drafts := s.drafts.update
      (fun row => row.tenantId = tenant ∧ row.blueprintId = blueprintId)
      (fun row => { row with
        document := record.document, updatedAt := timestampMicros record.now })
      fun _ => rfl
    match drafts.find? (tenant, blueprintId) with
    | some row => .ok ({ s with blueprints, drafts }, some row.decode)
    | none => .error .notFound

def nextRevision : ℕ := ((s.revisionRows tenant blueprintId).map (·.revision)).foldr max 0 + 1

def revisionFor (record : PublishBlueprintRecord) : BlueprintRevisionRow :=
  ⟨record.revisionId, tenant, blueprintId, s.nextRevision tenant blueprintId, record.document,
    record.documentHash, record.compatibility, timestampMicros record.now⟩

/-- The next revision, once the publication has been checked. -/
def insertRevision (record : PublishBlueprintRecord) :
    Except PersistenceError (BlueprintStore × PublishBlueprintOutcome) :=
  if 2147483647 < s.nextRevision tenant blueprintId then
    .error (.corruptData
      "device_blueprint_revisions.revision is outside the supported i32 range")
  else if record.documentHash.length ≠ 64 then
    .error (.checkViolation "length(document_hash) = 64")
  else
    let row := s.revisionFor tenant blueprintId record
    match s.revisions.insert? row with
    | none => .error (.uniqueViolation "device_blueprint_revisions.id")
    | some revisions =>
      let blueprints := s.blueprints.update
        (fun row => row.tenantId = tenant ∧ row.id = blueprintId)
        (fun row => { row with updatedAt := timestampMicros record.now }) fun _ => rfl
      .ok ({ s with blueprints, revisions }, .published row.decode)

/-- Checks the draft and the latest revision against the publication. The same document
again is the latest revision; anything else becomes the next one. -/
def publish (record : PublishBlueprintRecord) :
    Except PersistenceError (BlueprintStore × PublishBlueprintOutcome) :=
  match s.getDraft tenant blueprintId with
  | none => .ok (s, .blueprintNotFound)
  | some draft =>
    if draft.updatedAt ≠ record.expectedDraftUpdatedAt ∨ draft.document ≠ record.document then
      .ok (s, .draftChanged)
    else
      let latest := s.latestRevision tenant blueprintId
      match latest.filter fun latest =>
          latest.documentHash = record.documentHash ∧ latest.document = record.document with
      | some latest => .ok (s, .published latest)
      | none =>
        if latest.map (·.id) ≠ record.expectedPreviousRevisionId then .ok (s, .publicationChanged)
        else s.insertRevision tenant blueprintId record

end BlueprintStore

/-! What the transactions do. -/

namespace BlueprintStore

variable {s t : BlueprintStore} {tenant blueprintId : String}

theorem revisions_of_replaceDraft {record : ReplaceBlueprintDraftRecord}
    {result : Option BlueprintDraftRecord}
    (h : s.replaceDraft tenant blueprintId record = .ok (t, result)) : t.revisions = s.revisions := by
  simp only [replaceDraft] at h
  split_ifs at h
  · cases h
    rfl
  · split at h
    · cases h
      rfl
    · cases h

variable {record : PublishBlueprintRecord} {outcome : PublishBlueprintOutcome}
  {row : BlueprintRevisionRow}

theorem insertRevision_eq_ok (h : s.insertRevision tenant blueprintId record = .ok (t, outcome)) :
    outcome = .published (s.revisionFor tenant blueprintId record).decode ∧
      (∀ row ∈ s.revisions, row.id ≠ record.revisionId) ∧
      t.revisions.rows = s.revisions.rows ++ [s.revisionFor tenant blueprintId record] := by
  simp only [insertRevision] at h
  split_ifs at h
  split at h
  · cases h
  · rename_i revisions hinsert
    cases h
    exact ⟨rfl, Table.insert?_eq_some.mp hinsert⟩

/-- A publication changes nothing, or adds the draft that it was prepared from after the
revision that it was compared with. -/
theorem publish_cases (h : s.publish tenant blueprintId record = .ok (t, outcome)) :
    t = s ∨
      ((∃ draft, s.getDraft tenant blueprintId = some draft ∧ draft.document = record.document) ∧
        ((s.latestRow tenant blueprintId).map (·.id) = record.expectedPreviousRevisionId) ∧
        (∀ row ∈ s.revisions, row.id ≠ record.revisionId) ∧
        t.revisions.rows = s.revisions.rows ++ [s.revisionFor tenant blueprintId record]) := by
  unfold publish at h
  split at h
  · cases h
    exact .inl rfl
  · rename_i draft hdraft
    split_ifs at h with hchanged
    · cases h
      exact .inl rfl
    · simp only at h
      split at h
      · cases h
        exact .inl rfl
      · split_ifs at h with hlatest
        · cases h
          exact .inl rfl
        · obtain ⟨-, hfresh, hrows⟩ := insertRevision_eq_ok h
          obtain ⟨-, hdocument⟩ := not_or.mp hchanged
          have hprevious := not_not.mp hlatest
          rw [latestRevision, Option.map_map] at hprevious
          exact .inr ⟨⟨draft, hdraft, not_not.mp hdocument⟩, hprevious, hfresh, hrows⟩

theorem publish_of_latest {draft : BlueprintDraftRecord}
    {latest : BlueprintRevisionRow} (hdraft : s.getDraft tenant blueprintId = some draft)
    (hlatest : s.latestRow tenant blueprintId = some latest)
    (hdocument : latest.document = record.document)
    (hhash : latest.documentHash = record.documentHash) :
    s.publish tenant blueprintId record = .ok (s,
      if draft.updatedAt = record.expectedDraftUpdatedAt ∧ draft.document = record.document then
        .published latest.decode else .draftChanged) := by
  have hsame : (s.latestRevision tenant blueprintId).filter (fun latest =>
      latest.documentHash = record.documentHash ∧ latest.document = record.document) =
      some latest.decode := by
    rw [latestRevision, hlatest, Option.map_some, Option.filter_some]
    exact if_pos (decide_eq_true ⟨hhash, hdocument⟩)
  simp only [publish, hdraft, hsame]
  split_ifs <;> first | rfl | tauto

theorem revisionRows_append (h : t.revisions.rows = s.revisions.rows ++ [row]) :
    t.revisionRows tenant blueprintId = s.revisionRows tenant blueprintId ++
      if row.tenantId = tenant ∧ row.blueprintId = blueprintId then [row] else [] := by
  rw [revisionRows, h, List.filter_append]
  congr 1
  split_ifs with hown <;> simp [hown]

theorem mem_revisionRows :
    row ∈ s.revisionRows tenant blueprintId ↔
      row ∈ s.revisions ∧ row.tenantId = tenant ∧ row.blueprintId = blueprintId := by
  rw [revisionRows, List.mem_filter, decide_eq_true_eq]
  exact Iff.rfl

end BlueprintStore

end Extrittio
