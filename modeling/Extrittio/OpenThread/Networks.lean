import Extrittio.Library.OrderedMap

/-!
The networks that a scan found, one entry for each. A network that is seen more than once is
known by its strongest observation; the name of a weaker one is lost when a stronger one without
a name comes later.
-/
namespace Extrittio

open List OrderedMap

structure ThreadNetwork where
  networkName : Option String
  panId : String
  extendedAddress : String
  extendedPanId : Option String
  channel : ℕ
  rssi : ℤ
  lqi : ℕ
  deriving DecidableEq

namespace ThreadNetwork

def key (network : ThreadNetwork) : String :=
  network.extendedPanId.getD s!"{network.extendedAddress}:{network.panId}:{network.channel}"

def mergedWith (current network : ThreadNetwork) : ThreadNetwork :=
  if current.rssi < network.rssi then network
  else if current.networkName.isNone && network.networkName.isSome then
    { current with networkName := network.networkName }
  else current

def observed (current : Option ThreadNetwork) (network : ThreadNetwork) : Option ThreadNetwork :=
  some (current.elim network fun current => current.mergedWith network)

end ThreadNetwork

open ThreadNetwork

def uniqueNetworks (networks : List ThreadNetwork) (unique : OrderedMap String ThreadNetwork) :
    OrderedMap String ThreadNetwork :=
  networks.foldl (fun unique network => unique.insert network.key
    ((unique.get? network.key).elim network fun current => current.mergedWith network)) unique

def deduplicateNetworks (networks : List ThreadNetwork) : List ThreadNetwork :=
  (uniqueNetworks networks ∅).entries.map Prod.snd

variable {networks others : List ThreadNetwork} {o c : ThreadNetwork} {k : String}

/-- What is known is the strongest observation, but for its name. -/
theorem of_foldl_mergedWith (first : ThreadNetwork) (rest : List ThreadNetwork)
    (h : rest.foldl mergedWith first = c) :
    ∃ o ∈ first :: rest, (∀ n ∈ first :: rest, n.rssi ≤ o.rssi) ∧
      c = { o with networkName := c.networkName } ∧ (o.networkName.isSome → c = o) ∧
      ((∀ n ∈ first :: rest, n.networkName = none) → c.networkName = none) := by
  induction rest using List.reverseRecOn generalizing c with
  | nil =>
    subst h
    exact ⟨first, mem_cons_self, by simp, rfl, fun _ => rfl, fun hnone => hnone _ mem_cons_self⟩
  | append_singleton rest n ih =>
    obtain ⟨o, ho, hmax, hlike, hsame, hnone⟩ := ih rfl
    rw [foldl_concat] at h
    generalize rest.foldl mergedWith first = current at h hlike hsame hnone
    have hrssi : current.rssi = o.rssi := by rw [hlike]
    rw [← cons_append]
    simp only [mem_append, mem_singleton, or_imp, forall_and, forall_eq]
    unfold mergedWith at h
    split_ifs at h with hstronger hunnamed
    · subst h
      exact ⟨n, .inr rfl, ⟨fun m hm => (hmax m hm).trans (hrssi ▸ hstronger.le), le_rfl⟩, rfl,
        fun _ => rfl, fun hnames => hnames.2⟩
    · subst h
      rw [Bool.and_eq_true, Option.isNone_iff_eq_none] at hunnamed
      refine ⟨o, .inl ho, ⟨hmax, hrssi ▸ not_lt.mp hstronger⟩, by rw [hlike], fun hnamed => ?_,
        fun hnames => hnames.2⟩
      rw [hsame hnamed] at hunnamed
      simp [hunnamed.1] at hnamed
    · subst h
      exact ⟨o, .inl ho, ⟨hmax, hrssi ▸ not_lt.mp hstronger⟩, hlike, hsame, fun hnames => hnone hnames.1⟩

def sightings (k : String) (networks : List ThreadNetwork) : List ThreadNetwork :=
  networks.filter fun network => network.key = k

theorem mem_sightings {n : ThreadNetwork} : n ∈ sightings k networks ↔ n ∈ networks ∧ n.key = k := by
  simp [sightings]

theorem get?_uniqueNetworks (unique : OrderedMap String ThreadNetwork) :
    (uniqueNetworks networks unique).get? k = (sightings k networks).foldl observed (unique.get? k) := by
  induction networks generalizing unique with
  | nil => rfl
  | cons network networks ih =>
    rw [uniqueNetworks, foldl_cons, ← uniqueNetworks, ih, get?_insert]
    by_cases hkey : network.key = k
    · subst hkey
      rw [if_pos rfl, sightings, sightings, filter_cons_of_pos (by simp)]
      rfl
    · rw [if_neg (Ne.symm hkey), sightings, sightings, filter_cons_of_neg (by simpa using hkey)]

theorem foldl_observed_some (c : ThreadNetwork) (l : List ThreadNetwork) :
    l.foldl observed (some c) = some (l.foldl mergedWith c) := by
  induction l generalizing c with
  | nil => rfl
  | cons n l ih => exact ih _

/-- No observation of the same network is stronger. -/
def Strongest (networks : List ThreadNetwork) (o : ThreadNetwork) : Prop :=
  o ∈ networks ∧ ∀ n ∈ networks, n.key = o.key → n.rssi ≤ o.rssi

def Named (networks : List ThreadNetwork) (k : String) : Prop :=
  ∃ n ∈ networks, n.key = k ∧ n.networkName.isSome = true

theorem get?_eq_some (h : (uniqueNetworks networks ∅).get? k = some c) :
    ∃ o, Strongest networks o ∧ o.key = k ∧ c = { o with networkName := c.networkName } ∧
      (o.networkName.isSome → c = o) ∧ (¬Named networks k → c.networkName = none) := by
  rw [get?_uniqueNetworks] at h
  cases hsightings : sightings k networks with
  | nil =>
    rw [hsightings] at h
    cases h
  | cons first rest =>
    rw [hsightings, foldl_cons] at h
    obtain ⟨o, ho, hmax, hlike, hsame, hnone⟩ :=
      of_foldl_mergedWith first rest (Option.some.inj ((foldl_observed_some first rest).symm.trans h))
    simp only [← hsightings, mem_sightings] at ho hmax hnone
    obtain ⟨hmem, rfl⟩ := ho
    refine ⟨o, ⟨hmem, fun n hn hkey => hmax n ⟨hn, hkey⟩⟩, rfl, hlike, hsame,
      fun hnot => hnone fun n hn => ?_⟩
    by_contra hname
    exact hnot ⟨n, hn.1, hn.2, Option.isSome_iff_ne_none.mpr hname⟩

theorem mem_deduplicateNetworks :
    c ∈ deduplicateNetworks networks ↔ (uniqueNetworks networks ∅).get? c.key = some c := by
  simp only [deduplicateNetworks, mem_map, Prod.exists, exists_eq_right, ← get?_eq_some_iff]
  refine ⟨fun ⟨k, hget⟩ => ?_, fun hget => ⟨_, hget⟩⟩
  obtain ⟨o, -, rfl, hlike, -⟩ := get?_eq_some hget
  rw [hlike] at hget ⊢
  exact hget

theorem exists_get? {n : ThreadNetwork} (h : n ∈ networks) :
    ∃ c, (uniqueNetworks networks ∅).get? n.key = some c := by
  rw [get?_uniqueNetworks]
  obtain ⟨first, rest, hsightings⟩ := exists_cons_of_ne_nil (ne_nil_of_mem (mem_sightings.mpr ⟨h, rfl⟩))
  rw [hsightings]
  exact ⟨_, foldl_observed_some first rest⟩

/-- The result does not depend on the order of the observations; it has one entry for each
network, its strongest observation but for the name, and a name if any observation has one. -/
def Deduplicates (networks : List ThreadNetwork) : Prop :=
  (∀ others, networks.Perm others → deduplicateNetworks others = deduplicateNetworks networks) ∧
  (∀ n ∈ networks, ∃! c, c ∈ deduplicateNetworks networks ∧ c.key = n.key) ∧
  ∀ c ∈ deduplicateNetworks networks, (Named networks c.key → c.networkName.isSome = true) ∧
    ∃ o, Strongest networks o ∧ o.key = c.key ∧ c = { o with networkName := c.networkName }

/-- That is so exactly if the strongest observation of a named network has its name. -/
theorem deduplicates_iff (hdistinct : (networks.map rssi).Nodup) :
    Deduplicates networks ↔
      ∀ o, Strongest networks o → Named networks o.key → o.networkName.isSome := by
  constructor
  · rintro ⟨horder, -, hentries⟩ o ho hnamed
    -- the strongest observation comes last and takes the place of what was known
    have hlast : networks.Perm (networks.erase o ++ [o]) :=
      (perm_cons_erase ho.1).trans (perm_append_singleton _ _).symm
    have hget : (uniqueNetworks (networks.erase o ++ [o]) ∅).get? o.key = some o := by
      rw [get?_uniqueNetworks, sightings, filter_append, filter_cons_of_pos (by simp), filter_nil,
        foldl_concat, ← sightings, ← get?_uniqueNetworks]
      cases hbefore : (uniqueNetworks (networks.erase o) ∅).get? o.key with
      | none => rfl
      | some current =>
        obtain ⟨b, hb, hkey, hcurrent, -⟩ := get?_eq_some hbefore
        have hmem := mem_of_mem_erase hb.1
        have hne : b.rssi ≠ o.rssi := fun heq => by
          rw [inj_on_of_nodup_map hdistinct hmem ho.1 heq] at hb
          exact hdistinct.of_map.not_mem_erase hb.1
        have hlt : current.rssi < o.rssi := by
          rw [hcurrent]
          exact lt_of_le_of_ne (ho.2 b hmem hkey) hne
        exact congrArg some (if_pos hlt)
    refine (hentries o ?_).1 hnamed
    rw [← horder _ hlast]
    exact mem_deduplicateNetworks.mpr hget
  · intro hnames
    -- every order finds the strongest observation as it is
    have hexact : ∀ {others}, networks.Perm others → ∀ {k c},
        (uniqueNetworks others ∅).get? k = some c → Strongest networks c ∧ c.key = k := by
      intro others hothers k c hget
      obtain ⟨o, ho, rfl, hlike, hsame, hnone⟩ := get?_eq_some hget
      simp only [Strongest, Named, ← hothers.mem_iff] at ho hnone
      suffices heq : c = o by rw [heq]; exact ⟨ho, rfl⟩
      by_cases hnamed : Named networks o.key
      · exact hsame (hnames o ho hnamed)
      · have hname : o.networkName = none := by
          by_contra hname
          exact hnamed ⟨o, ho.1, rfl, Option.isSome_iff_ne_none.mpr hname⟩
        rw [hlike, hnone hnamed, ← hname]
    have hunique : ∀ {a b}, Strongest networks a → Strongest networks b → a.key = b.key → a = b :=
      fun ha hb hkey => inj_on_of_nodup_map hdistinct ha.1 hb.1
        (le_antisymm (hb.2 _ ha.1 hkey) (ha.2 _ hb.1 hkey.symm))
    refine ⟨fun others hothers => ?_, fun n hn => ?_, fun c hc => ?_⟩
    · refine congrArg (fun m : OrderedMap String ThreadNetwork => m.entries.map Prod.snd)
        (ext_get? fun k => Option.ext fun c => ?_)
      have hsame : ∀ {l l' : List ThreadNetwork}, networks.Perm l → networks.Perm l' →
          (uniqueNetworks l ∅).get? k = some c → (uniqueNetworks l' ∅).get? k = some c := by
        intro l l' hl hl' hget
        obtain ⟨hc, rfl⟩ := hexact hl hget
        obtain ⟨c', hget'⟩ := exists_get? (hl'.mem_iff.mp hc.1)
        obtain ⟨hc', hkey⟩ := hexact hl' hget'
        rw [hget', hunique hc hc' hkey.symm]
      exact ⟨hsame hothers (.refl _), hsame (.refl _) hothers⟩
    · obtain ⟨c, hget⟩ := exists_get? hn
      obtain ⟨hc, hkey⟩ := hexact (.refl _) hget
      refine ⟨c, ⟨mem_deduplicateNetworks.mpr (hkey ▸ hget), hkey⟩, fun c' hc' => ?_⟩
      exact hunique (hexact (.refl _) (mem_deduplicateNetworks.mp hc'.1)).1 hc (hc'.2.trans hkey.symm)
    · obtain ⟨hc, -⟩ := hexact (.refl _) (mem_deduplicateNetworks.mp hc)
      exact ⟨hnames c hc, c, hc, rfl, rfl⟩

/-- A mesh that is seen by name, and again more strongly without it. -/
def meshSightings : List ThreadNetwork :=
  [⟨some "Mesh", "1234", "0011223344556677", some "8899aabbccddeeff", 15, -70, 2⟩,
    ⟨none, "1234", "1021324354657687", some "8899aabbccddeeff", 15, -40, 3⟩]

theorem deduplicate_loses_name : (meshSightings.map rssi).Nodup ∧
    (deduplicateNetworks meshSightings).map networkName = [none] ∧
    (deduplicateNetworks meshSightings.reverse).map networkName = [some "Mesh"] := by
  decide +kernel

theorem deduplicates_iff_mesh : (meshSightings.map rssi).Nodup ∧ (Deduplicates meshSightings ↔
    ∀ o, Strongest meshSightings o → Named meshSightings o.key → o.networkName.isSome) :=
  ⟨by decide, deduplicates_iff (by decide)⟩

end Extrittio
