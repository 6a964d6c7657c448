import Extrittio.Outbox.Claims

/-!
A claim over many tenants. Rows are ranked within their tenant and taken by rank, so a
tenant that is left with an eligible row has at most one row less than any other.
-/
namespace Extrittio

open Relational List
open OutboxRow hiding id

namespace Outbox

variable {o : Outbox} {limit now leaseCutoff : ℤ} {r r' : OutboxRow}

theorem claimKey_lt {eligible : List OutboxRow} (htenant : r.tenantId = r'.tenantId)
    (hlt : r.dueKey < r'.dueKey) : r.claimKey eligible < r'.claimKey eligible := by
  have hrank : r.tenantRank eligible ≤ r'.tenantRank eligible := by
    refine Nat.add_le_add_right (countP_mono_left fun c _ hc => ?_) 1
    simp only [decide_eq_true_eq] at hc ⊢
    exact ⟨hc.1.trans htenant, hc.2.trans hlt⟩
  rw [claimKey, claimKey, Prod.Lex.toLex_lt_toLex]
  rcases hrank.lt_or_eq with hrank | hrank
  · exact .inl hrank
  · exact .inr ⟨hrank, hlt⟩

theorem claimKey_le {eligible : List OutboxRow} (htenant : r.tenantId = r'.tenantId)
    (hle : r.dueKey ≤ r'.dueKey) : r.claimKey eligible ≤ r'.claimKey eligible := by
  rcases hle.lt_or_eq with hlt | heq
  · exact (claimKey_lt htenant hlt).le
  · have hrank : r.tenantRank eligible = r'.tenantRank eligible := by
      rw [tenantRank, tenantRank, htenant, heq]
    rw [claimKey, claimKey, hrank, heq]

theorem isEligible_of_pending (h : r.status = .pending) :
    r.isEligible now leaseCutoff ↔ r.attempts < r.maxAttempts ∧ r.availableAt ≤ now := by
  simp [isEligible, h]

theorem availableAt_le_of_dueKey_lt (h : r.dueKey < r'.dueKey) : r.availableAt ≤ r'.availableAt := by
  rcases Prod.Lex.toLex_lt_toLex.mp h with hlt | ⟨heq, -⟩
  · exact hlt.le
  · exact heq.le

theorem dueKey_lt_of_availableAt_lt (h : r.availableAt < r'.availableAt) : r.dueKey < r'.dueKey :=
  Prod.Lex.toLex_lt_toLex.mpr (.inl h)

theorem mem_claimSelection_of_dueKey_lt (hr' : r' ∈ o.claimSelection limit now leaseCutoff)
    (hr : r ∈ o) (helig : r.isEligible now leaseCutoff) (htenant : r.tenantId = r'.tenantId)
    (hlt : r.dueKey < r'.dueKey) : r ∈ o.claimSelection limit now leaseCutoff := by
  have hnodup := o.table.nodup.sublist ((filter_sublist
    (p := isEligible now leaseCutoff)).map OutboxRow.id)
  have hmem : r ∈ o.table.rows.filter (isEligible now leaseCutoff) :=
    List.mem_filter.mpr ⟨hr, helig⟩
  unfold claimSelection limitTo at hr' ⊢
  split_ifs at hr' ⊢
  · exact mem_orderBy.mpr hmem
  · exact mem_take_orderBy_of_lt (claimKey_nodup _ hnodup) hr' hmem (claimKey_lt htenant hlt)

theorem claimSelection_sorted (o : Outbox) (limit now leaseCutoff : ℤ) :
    (o.claimSelection limit now leaseCutoff).Pairwise fun r r' =>
      r.claimKey (o.table.rows.filter (isEligible now leaseCutoff)) <
        r'.claimKey (o.table.rows.filter (isEligible now leaseCutoff)) := by
  have hnodup := o.table.nodup.sublist ((filter_sublist
    (p := isEligible now leaseCutoff)).map OutboxRow.id)
  exact (orderBy_strict (claimKey_nodup _ hnodup)).sublist (limitTo_sublist limit _)

section

def eligible (o : Outbox) (now leaseCutoff : ℤ) : List OutboxRow :=
  o.table.rows.filter (OutboxRow.isEligible now leaseCutoff)

/-- The eligible rows of a tenant by availability, creation time and id. -/
def dueOrder (o : Outbox) (now leaseCutoff : ℤ) (tenant : String) : List OutboxRow :=
  orderBy OutboxRow.dueKey ((o.eligible now leaseCutoff).filter fun r => r.tenantId = tenant)

theorem eligible_nodup : ((o.eligible now leaseCutoff).map OutboxRow.id).Nodup :=
  o.table.nodup.sublist (filter_sublist.map _)

theorem eq_of_dueKey_eq (hr : r ∈ o) (hr' : r' ∈ o) (h : r.dueKey = r'.dueKey) : r = r' := by
  simp only [OutboxRow.dueKey, EmbeddingLike.apply_eq_iff_eq, Prod.mk.injEq] at h
  exact o.eq_of_id_eq hr hr' h.2.2

theorem mem_dueOrder {tenant : String} :
    r ∈ o.dueOrder now leaseCutoff tenant ↔ r ∈ o.eligible now leaseCutoff ∧ r.tenantId = tenant := by
  rw [dueOrder, mem_orderBy, List.mem_filter, decide_eq_true_eq]

theorem dueOrder_strict (tenant : String) :
    (o.dueOrder now leaseCutoff tenant).Pairwise fun a b => a.dueKey < b.dueKey := by
  apply orderBy_strict
  refine (nodup_map_iff_inj_on ?_).mpr fun r hr r' hr' hkey => ?_
  · exact (List.Nodup.of_map _ eligible_nodup).sublist filter_sublist
  · exact eq_of_dueKey_eq (mem_of_mem_filter (mem_of_mem_filter hr))
      (mem_of_mem_filter (mem_of_mem_filter hr')) hkey

theorem tenantRank_of_append {tenant : String} {before after : List OutboxRow}
    (h : o.dueOrder now leaseCutoff tenant = before ++ r :: after) :
    tenantRank (o.eligible now leaseCutoff) r = before.length + 1 := by
  have hr : r ∈ o.dueOrder now leaseCutoff tenant := by simp [h]
  have htenant := (mem_dueOrder.mp hr).2
  have hcount : (o.dueOrder now leaseCutoff tenant).countP (fun r' => r'.dueKey < r.dueKey) =
      before.length := by
    have hstrict : (o.dueOrder now leaseCutoff tenant).Pairwise _ := dueOrder_strict tenant
    rw [h] at hstrict ⊢
    exact countP_lt_of_append hstrict
  rw [dueOrder, (orderBy_perm _ _).countP_eq, countP_filter] at hcount
  rw [tenantRank, ← hcount]
  congr 2
  funext r'
  simp [htenant, Bool.and_comm]

/-- Within a tenant the claim order is the order in which rows become due. -/
theorem filter_claimOrder (tenant : String) :
    (o.claimOrder now leaseCutoff).filter (fun r => r.tenantId = tenant) =
      o.dueOrder now leaseCutoff tenant := by
  have hsorted : ((o.claimOrder now leaseCutoff).filter fun r => r.tenantId = tenant).Pairwise
      fun a b => a.dueKey ≤ b.dueKey := by
    have hclaim : ((o.claimOrder now leaseCutoff).filter fun r => r.tenantId = tenant).Pairwise
        fun a b => a.claimKey (o.eligible now leaseCutoff) ≤ b.claimKey (o.eligible now leaseCutoff) :=
      (orderBy_sorted _ _).sublist filter_sublist
    refine hclaim.imp_of_mem fun {a b} ha hb hle => ?_
    have htenant : b.tenantId = a.tenantId := by
      rw [of_decide_eq_true (List.mem_filter.mp hb).2, of_decide_eq_true (List.mem_filter.mp ha).2]
    by_contra hlt
    exact absurd hle (not_le.mpr (claimKey_lt htenant (not_le.mp hlt)))
  have hperm : ((o.claimOrder now leaseCutoff).filter fun r => r.tenantId = tenant).Perm
      (o.dueOrder now leaseCutoff tenant) :=
    ((orderBy_perm _ _).filter _).trans (orderBy_perm _ _).symm
  refine List.Perm.eq_of_pairwise (fun a b ha hb hab hba => ?_) hsorted (orderBy_sorted _ _) hperm
  have hmem {r : OutboxRow} (hr : r ∈ o.dueOrder now leaseCutoff tenant) : r ∈ o :=
    mem_of_mem_filter (mem_dueOrder.mp hr).1
  exact eq_of_dueKey_eq (hmem (hperm.mem_iff.mp ha)) (hmem hb) (le_antisymm hab hba)

variable (o limit now leaseCutoff) in
theorem filter_claimSelection_first (tenant : String) :
    (o.claimSelection limit now leaseCutoff).filter (fun r => r.tenantId = tenant) <+:
      o.dueOrder now leaseCutoff tenant := by
  rw [← filter_claimOrder]
  refine List.IsPrefix.filter _ ?_
  unfold claimSelection limitTo
  split
  · exact prefix_rfl
  · exact take_prefix _ _

theorem mem_claimSelection_of_rank_lt (hr : r ∈ o.eligible now leaseCutoff)
    (hr' : r' ∈ o.claimSelection limit now leaseCutoff)
    (hrank : r.tenantRank (o.eligible now leaseCutoff) < r'.tenantRank (o.eligible now leaseCutoff)) :
    r ∈ o.claimSelection limit now leaseCutoff := by
  have hlt : r.claimKey (o.eligible now leaseCutoff) < r'.claimKey (o.eligible now leaseCutoff) :=
    Prod.Lex.toLex_lt_toLex.mpr (.inl hrank)
  unfold claimSelection limitTo at hr' ⊢
  split_ifs at hr' ⊢
  · exact mem_orderBy.mpr hr
  · exact mem_take_orderBy_of_lt (claimKey_nodup _ eligible_nodup) hr' hr hlt

theorem exists_left_over (hr : r ∈ o.eligible now leaseCutoff)
    (hleft : r ∉ o.claimSelection limit now leaseCutoff) :
    ∃ next ∈ o.eligible now leaseCutoff, next ∉ o.claimSelection limit now leaseCutoff ∧
      next.tenantRank (o.eligible now leaseCutoff) =
        ((o.claimSelection limit now leaseCutoff).filter
          fun r' => r'.tenantId = r.tenantId).length + 1 := by
  obtain ⟨rest, hrest⟩ := filter_claimSelection_first o limit now leaseCutoff r.tenantId
  have hmem : r ∈ rest := by
    have hdue : r ∈ o.dueOrder now leaseCutoff r.tenantId := mem_dueOrder.mpr ⟨hr, rfl⟩
    rw [← hrest] at hdue
    refine (mem_append.mp hdue).resolve_left fun htaken => hleft ?_
    exact mem_of_mem_filter htaken
  cases rest with
  | nil => cases hmem
  | cons next rest =>
    have hnext : next ∈ o.dueOrder now leaseCutoff r.tenantId := by simp [← hrest]
    refine ⟨next, (mem_dueOrder.mp hnext).1, fun htaken => ?_, tenantRank_of_append hrest.symm⟩
    have hstrict : (o.dueOrder now leaseCutoff r.tenantId).Pairwise _ := dueOrder_strict r.tenantId
    rw [← hrest] at hstrict
    have hbefore := (pairwise_append.mp hstrict).2.2 next
      (List.mem_filter.mpr ⟨htaken, by simp [(mem_dueOrder.mp hnext).2]⟩) next mem_cons_self
    exact lt_irrefl _ hbefore

theorem exists_last_taken {tenant : String}
    (h : (o.claimSelection limit now leaseCutoff).filter (fun r => r.tenantId = tenant) ≠ []) :
    ∃ last ∈ o.claimSelection limit now leaseCutoff,
      last.tenantRank (o.eligible now leaseCutoff) =
        ((o.claimSelection limit now leaseCutoff).filter fun r => r.tenantId = tenant).length := by
  obtain ⟨rest, hrest⟩ := filter_claimSelection_first o limit now leaseCutoff tenant
  obtain ⟨before, last, heq⟩ := (eq_nil_or_concat' _).resolve_left h
  have hlast : last ∈ (o.claimSelection limit now leaseCutoff).filter fun r => r.tenantId = tenant := by
    simp [heq]
  refine ⟨last, mem_of_mem_filter hlast, ?_⟩
  rw [heq, append_assoc] at hrest
  rw [tenantRank_of_append hrest.symm, heq]
  simp

/-- A tenant with an eligible row left over has all but at most one of the rows that any
other tenant has. -/
theorem claimSelection_fair (hr : r ∈ o.eligible now leaseCutoff)
    (hleft : r ∉ o.claimSelection limit now leaseCutoff) (other : String) :
    ((o.claimSelection limit now leaseCutoff).filter fun r' => r'.tenantId = other).length ≤
      ((o.claimSelection limit now leaseCutoff).filter
        fun r' => r'.tenantId = r.tenantId).length + 1 := by
  by_cases hnone : (o.claimSelection limit now leaseCutoff).filter (fun r' => r'.tenantId = other) = []
  · simp [hnone]
  · obtain ⟨next, hnext, hnot, hrank⟩ := exists_left_over hr hleft
    obtain ⟨last, hlast, hlastRank⟩ := exists_last_taken hnone
    by_contra hmore
    exact hnot (mem_claimSelection_of_rank_lt hnext hlast (by omega))

/-- A batch is fair: it takes the first rows of every tenant by availability, creation
time and id, and no tenant gets two rows more than one that is left with an eligible row. -/
theorem claimBatch_fair (workerId uuid : String) (limit : ℤ) (lease : ℕ) (now : ℤ) (o : Outbox) :
    ∃ o' events, o.claimBatch workerId uuid limit lease now = .ok (o', events) ∧
      (∀ tenant, (events.filter fun event => event.tenantId = tenant).map (·.id) <+:
        (o.dueOrder now (saturatingSub now (leaseMicros lease)) tenant).map OutboxRow.id) ∧
      ∀ r ∈ o, r.isEligible now (saturatingSub now (leaseMicros lease)) = true →
        r.id ∉ events.map (·.id) → ∀ other,
          (events.filter fun event => event.tenantId = other).length ≤
            (events.filter fun event => event.tenantId = r.tenantId).length + 1 := by
  obtain ⟨o', hclaim, -⟩ := claimBatch_eq workerId uuid limit lease now o
  have hfilter (tenant : String) : ((o.claimSelection limit now
      (saturatingSub now (leaseMicros lease))).map fun r =>
        (r.claim now (workerId ++ ":" ++ uuid)).toRecord).filter (fun event =>
          event.tenantId = tenant) =
      ((o.claimSelection limit now (saturatingSub now (leaseMicros lease))).filter fun r =>
        r.tenantId = tenant).map fun r => (r.claim now (workerId ++ ":" ++ uuid)).toRecord :=
    filter_map
  refine ⟨o', _, hclaim, fun tenant => ?_, fun r hr helig hleft other => ?_⟩
  · rw [hfilter, map_map]
    exact (filter_claimSelection_first o limit now _ tenant).map OutboxRow.id
  · rw [hfilter, hfilter, length_map, length_map]
    refine claimSelection_fair (List.mem_filter.mpr ⟨hr, helig⟩) (fun htaken => hleft ?_) other
    rw [map_map]
    exact mem_map_of_mem htaken

end

end Outbox

end Extrittio
