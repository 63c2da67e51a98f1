import ExplorerProxy.Proofs.Cache.Counts
import ExplorerProxy.Proofs.Cache.Latest
import ExplorerProxy.Proofs.Service.Failures
import ExplorerProxy.Proofs.Service.Replay

/-!
# The accounts of a cache

The deeds of a history account for each cache that they lead to: for every counter of
it, and for what it holds, which is the latest of the values that were found or stored.
This needs only that the deeds tell the truth and that the stamps have not run out.
-/

namespace ExplorerProxy

set_option autoImplicit false

namespace Deed

def kind : Deed → Kind
  | .looked k _ _ => k
  | .called k _ _ => k
  | .heard k _ _ => k
  | .stored k _ _ _ => k
  | .answered r _ => r.kind

def isHit : Deed → Bool
  | .looked _ _ found => found.isSome
  | _ => false

def isMiss : Deed → Bool
  | .looked _ _ found => found.isNone
  | _ => false

def isNew : Deed → Bool
  | .stored _ _ _ new => new
  | _ => false

def isUse (d : Deed) : Bool := d.isLook || d.isStore

/-- The value that was found in the cache of a kind or stored there, and its subject. -/
def gives? (k : Kind) : Deed → Option (Subject × k.Value)
  | .looked j x (some v) => if h : j = k then some (x, h ▸ v) else none
  | .stored j x v _ => if h : j = k then some (x, h ▸ v) else none
  | _ => none

theorem countP_isLook (ds : List Deed) :
    ds.countP isLook = ds.countP isHit + ds.countP isMiss := by
  induction ds with
  | nil => rfl
  | cons d ds ih =>
    rw [List.countP_cons, List.countP_cons, List.countP_cons, ih]
    cases d with
    | looked k x found =>
      cases found with
      | none => rfl
      | some v => exact Nat.add_right_comm _ _ 1
    | _ => rfl

theorem countP_isUse (ds : List Deed) :
    ds.countP isUse = ds.countP isLook + ds.countP isStore := by
  induction ds with
  | nil => rfl
  | cons d ds ih =>
    rw [List.countP_cons, List.countP_cons, List.countP_cons, ih]
    cases d with
    | looked k x found => exact Nat.add_right_comm _ _ 1
    | _ => rfl

theorem isUse_of_isHit (d : Deed) (h : d.isHit = true) : d.isUse = true := by
  cases d <;> first | rfl | cases h

theorem isUse_of_isMiss (d : Deed) (h : d.isMiss = true) : d.isUse = true := by
  cases d <;> first | rfl | cases h

theorem isUse_of_isNew (d : Deed) (h : d.isNew = true) : d.isUse = true := by
  cases d <;> first | rfl | cases h

theorem gives?_eq_none {k : Kind} {d : Deed} (hd : d.kind ≠ k ∨ d.isUse = false) :
    d.gives? k = none := by
  rcases hd with hd | hd
  · cases d with
    | looked j x found =>
      cases found with
      | none => rfl
      | some v => exact dif_neg hd
    | stored => exact dif_neg hd
    | _ => rfl
  · cases d <;> first | rfl | cases hd

end Deed

namespace History

def tally (h : History) (k : Kind) (p : Deed → Bool) : Nat :=
  h.countP fun d => d.2.kind = k && p d.2

def uses (h : History) (k : Kind) : Nat := h.tally k Deed.isUse

/-- The values that were found or stored in the cache of a kind, the latest first. -/
def given (h : History) (k : Kind) : List (Subject × k.Value) :=
  h.filterMap fun d => d.2.gives? k

section Tally

variable (h : History) (k : Kind) (p : Deed → Bool)

theorem tally_cons (i : Nat) (d : Deed) :
    tally ((i, d) :: h) k p = h.tally k p + if d.kind = k ∧ p d = true then 1 else 0 := by
  rw [tally, List.countP_cons]
  simp only [Bool.and_eq_true, decide_eq_true_eq]
  rfl

theorem tally_looked (i : Nat) (x : Subject) (found : Option k.Value) :
    tally ((i, .looked k x found) :: h) k p =
      h.tally k p + if p (.looked k x found) = true then 1 else 0 := by
  rw [tally_cons]
  simp only [Deed.kind, true_and]

theorem tally_stored (i : Nat) (x : Subject) (v : k.Value) (new : Bool) :
    tally ((i, .stored k x v new) :: h) k p =
      h.tally k p + if p (.stored k x v new) = true then 1 else 0 := by
  rw [tally_cons]
  simp only [Deed.kind, true_and]

theorem uses_le_cons (i : Nat) (d : Deed) : h.uses k ≤ uses ((i, d) :: h) k := by
  rw [uses, uses, tally_cons]
  exact Nat.le_add_right _ _

theorem given_cons (i : Nat) (d : Deed) :
    given ((i, d) :: h) k = (d.gives? k).toList ++ h.given k := by
  rw [given, List.filterMap_cons]
  cases d.gives? k <;> rfl

section Quiet

variable {k} {p} (i : Nat) {d : Deed} (hd : d.kind ≠ k ∨ d.isUse = false)
include hd

theorem given_cons_of_quiet : given ((i, d) :: h) k = h.given k := by
  rw [given_cons, Deed.gives?_eq_none hd]
  rfl

theorem tally_cons_of_quiet (hp : p d = true → d.isUse = true) :
    tally ((i, d) :: h) k p = h.tally k p := by
  rw [tally_cons, if_neg, Nat.add_zero]
  rintro ⟨hk, hpd⟩
  rcases hd with hd | hd
  · exact hd hk
  · rw [hp hpd] at hd
    cases hd

end Quiet

theorem tally_append (ds : History) : tally (ds ++ h) k p = ds.tally k p + h.tally k p :=
  List.countP_append

theorem tally_mono {p q : Deed → Bool} (hpq : ∀ d, p d = true → q d = true) :
    h.tally k p ≤ h.tally k q := by
  apply List.countP_mono_left
  intro d _ hd
  rw [Bool.and_eq_true] at hd ⊢
  exact ⟨hd.1, hpq d.2 hd.2⟩

theorem tally_eq_countP :
    h.tally k p = ((h.map Prod.snd).filter fun d => d.kind = k).countP p := by
  rw [List.countP_filter, List.countP_map, tally]
  apply List.countP_congr
  intro d _
  rw [Function.comp_apply, Bool.and_comm]

theorem tally_isLook :
    h.tally k Deed.isLook = h.tally k Deed.isHit + h.tally k Deed.isMiss := by
  rw [tally_eq_countP, tally_eq_countP, tally_eq_countP, Deed.countP_isLook]

end Tally

/-- The deeds account for the cache of a kind that they lead to. -/
structure Accounts (s : Service) (k : Kind) (h : History) : Prop where
  tracks : ((h.after s).cache k).Tracks (h.given k) (h.uses k)
  capacity : ((h.after s).cache k).capacity = (s.cache k).capacity
  hits : ((h.after s).cache k).hits = h.tally k Deed.isHit
  misses : ((h.after s).cache k).misses = h.tally k Deed.isMiss
  held : (s.cache k).capacity ≠ 0 →
    ((h.after s).cache k).held + ((h.after s).cache k).evictions = h.tally k Deed.isNew
  bare : (s.cache k).capacity = 0 → ((h.after s).cache k).evictions = 0

theorem accounts_fresh (policy : RetryPolicy) (holdersCapacity abiCapacity : Nat) (k : Kind) :
    Accounts (.fresh policy holdersCapacity abiCapacity) k [] where
  tracks := by
    cases k <;> exact Cache.tracks_empty _
  capacity := rfl
  hits := by cases k <;> rfl
  misses := by cases k <;> rfl
  held := by
    intro _
    cases k <;> rfl
  bare := by
    intro _
    cases k <;> rfl

variable {s : Service} {k : Kind} {h : History}

theorem Accounts.quiet (ha : Accounts s k h) (i : Nat) {d : Deed}
    (hd : d.kind ≠ k ∨ d.isUse = false) : Accounts s k ((i, d) :: h) := by
  have hcache : ((after s ((i, d) :: h)).cache k) = (h.after s).cache k := by
    rw [after]
    rcases hd with hd | hd
    · cases d with
      | looked => exact Service.cache_withCache_of_ne _ (Ne.symm hd) _
      | stored => exact Service.cache_withCache_of_ne _ (Ne.symm hd) _
      | _ => rfl
    · cases d <;> first | rfl | cases hd
  have hgiven := given_cons_of_quiet h i hd
  have htally := fun p => tally_cons_of_quiet h (p := p) i hd
  refine ⟨?_, ?_, ?_, ?_, ?_, ?_⟩
  · rw [hcache, hgiven, uses, htally _ id]
    exact ha.tracks
  · rw [hcache, ha.capacity]
  · rw [hcache, ha.hits, htally _ d.isUse_of_isHit]
  · rw [hcache, ha.misses, htally _ d.isUse_of_isMiss]
  · rw [hcache, htally _ d.isUse_of_isNew]
    exact ha.held
  · rw [hcache]
    exact ha.bare

theorem Accounts.looked (ha : Accounts s k h) (i : Nat) (x : Subject)
    (hu : h.uses k < Cache.lastStamp) :
    Accounts s k ((i, .looked k x (((h.after s).cache k).value? x)) :: h) := by
  have hcache : (after s ((i, .looked k x (((h.after s).cache k).value? x)) :: h)).cache k =
      (((h.after s).cache k).get x).2 := Service.cache_withCache_self _ _ _
  refine ⟨?_, ?_, ?_, ?_, ?_, ?_⟩
  · rw [hcache, uses, tally_looked, given_cons]
    cases hv : ((h.after s).cache k).value? x with
    | none => exact ha.tracks.get_of_none hu hv
    | some v =>
      have hgives : (Deed.looked k x (some v)).gives? k = some (x, v) := dif_pos rfl
      rw [hgives]
      exact ha.tracks.get_of_some hu hv
  · rw [hcache, Cache.capacity_get, ha.capacity]
  · rw [hcache, Cache.hits_get, ha.hits, tally_looked]
    rfl
  · rw [hcache, Cache.misses_get, ha.misses, tally_looked]
    cases ((h.after s).cache k).value? x <;> rfl
  · rw [hcache, Cache.held_get, Cache.evictions_get, tally_looked]
    exact ha.held
  · rw [hcache, Cache.evictions_get]
    exact ha.bare

theorem Accounts.stored (ha : Accounts s k h) (i : Nat) (x : Subject) (v : k.Value)
    (hu : h.uses k < Cache.lastStamp) :
    Accounts s k ((i, .stored k x v (!((h.after s).cache k).contains x)) :: h) := by
  have hcache : (after s ((i, .stored k x v (!((h.after s).cache k).contains x)) :: h)).cache k =
      ((h.after s).cache k).insert x v := Service.cache_withCache_self _ _ _
  obtain ⟨hhits, hmisses, _⟩ := ((h.after s).cache k).counts_insert x v
  have hstamps := ha.tracks.stamps.trans_lt hu
  refine ⟨?_, ?_, ?_, ?_, ?_, ?_⟩
  · have hgives : (Deed.stored k x v (!((h.after s).cache k).contains x)).gives? k = some (x, v) :=
      dif_pos rfl
    rw [hcache, uses, tally_stored, given_cons, hgives]
    exact ha.tracks.insert hu x v
  · rw [hcache, Cache.capacity_insert, ha.capacity]
  · rw [hcache, hhits, ha.hits, tally_stored]
    rfl
  · rw [hcache, hmisses, ha.misses, tally_stored]
    rfl
  · intro hcap
    rw [hcache, ha.tracks.inStep.held_insert hstamps (ha.capacity ▸ hcap), ha.held hcap,
      tally_stored]
    cases ((h.after s).cache k).contains x <;> rfl
  · intro hcap
    rw [hcache, Cache.insert_of_capacity_zero (ha.capacity.trans hcap)]
    exact ha.bare hcap

/-- True deeds account for the cache that they lead to, as long as it has stamps. -/
theorem Told.accounts (hs : h.Told s) (hstart : Accounts s k [])
    (hu : h.uses k ≤ Cache.lastStamp) : Accounts s k h := by
  induction h with
  | nil => exact hstart
  | cons d h ih =>
    obtain ⟨i, d⟩ := d
    obtain ⟨hd, hs⟩ := hs
    have ha := ih hs ((uses_le_cons h k i d).trans hu)
    by_cases hk : d.kind = k
    · cases d with
      | looked j x found =>
        obtain rfl : j = k := hk
        obtain rfl : found = _ := hd
        rw [uses, tally_looked] at hu
        exact ha.looked i x hu
      | stored j x v new =>
        obtain rfl : j = k := hk
        obtain rfl : new = _ := hd
        rw [uses, tally_stored] at hu
        exact ha.stored i x v hu
      | _ => exact ha.quiet i (Or.inr rfl)
    · exact ha.quiet i (Or.inl hk)

/-- None of the counts has outgrown a word, so that the statistics report them. -/
structure Reported {κ ν : Type} [BEq κ] [Hashable κ] (c : Cache κ ν) : Prop where
  hits : c.stats.hits.toNat = c.hits
  misses : c.stats.misses.toNat = c.misses
  entries : c.stats.entries.toNat = c.held
  evictions : c.stats.evictions.toNat = c.evictions

theorem Accounts.reported (ha : Accounts s k h) (hu : h.uses k ≤ Cache.lastStamp) :
    Reported ((h.after s).cache k) := by
  have hhits : h.tally k Deed.isHit ≤ h.uses k := h.tally_mono k fun d => d.isUse_of_isHit
  have hmisses : h.tally k Deed.isMiss ≤ h.uses k := h.tally_mono k fun d => d.isUse_of_isMiss
  have hnew : h.tally k Deed.isNew ≤ h.uses k := h.tally_mono k fun d => d.isUse_of_isNew
  have hbound : ((h.after s).cache k).held ≤ Cache.lastStamp ∧
      ((h.after s).cache k).evictions ≤ Cache.lastStamp := by
    by_cases hcap : (s.cache k).capacity = 0
    · have hsize := ha.tracks.inStep.held_eq.trans_le ha.tracks.inStep.size_le
      have hcapacity := ha.capacity
      have hbare := ha.bare hcap
      omega
    · have hheld := ha.held hcap
      omega
  refine ⟨?_, ?_, ?_, ?_⟩
  · exact Cache.toNat_ofNat_of_le_lastStamp (ha.hits.trans_le (hhits.trans hu))
  · exact Cache.toNat_ofNat_of_le_lastStamp (ha.misses.trans_le (hmisses.trans hu))
  · exact Cache.toNat_ofNat_of_le_lastStamp hbound.1
  · exact Cache.toNat_ofNat_of_le_lastStamp hbound.2

theorem Accounts.value?_eq_none (ha : Accounts s k h) {x : Subject}
    (hx : x ∉ (h.given k).map Prod.fst) : ((h.after s).cache k).value? x = none := by
  rw [Option.eq_none_iff_forall_ne_some]
  intro v hv
  obtain ⟨since, before, hgiven, _⟩ := (ha.tracks.value?_eq_some x v).mp hv
  apply hx
  rw [hgiven]
  simp

/-- If no subject has been given a value twice, nothing was found, and whatever was stored
was new. -/
theorem Told.tally_of_nodup (hs : h.Told s) (hstart : Accounts s k [])
    (hu : h.uses k ≤ Cache.lastStamp) (hd : ((h.given k).map Prod.fst).Nodup) :
    h.tally k Deed.isHit = 0 ∧ h.tally k Deed.isNew = (h.given k).length := by
  induction h with
  | nil => exact ⟨rfl, rfl⟩
  | cons d h ih =>
    obtain ⟨i, d⟩ := d
    obtain ⟨hdeed, hs⟩ := hs
    have huh := (uses_le_cons h k i d).trans hu
    have ha := hs.accounts hstart huh
    rw [given_cons, List.map_append] at hd
    obtain ⟨hhit, hnew⟩ := ih hs huh (List.nodup_append.mp hd).2.1
    by_cases hk : d.kind = k ∧ d.isUse = true
    · obtain ⟨hk, huse⟩ := hk
      -- a value was given to a subject that is not held
      have hnone : ∀ x v, d.gives? k = some (x, v) → ((after s h).cache k).value? x = none := by
        intro x v hx
        rw [hx] at hd
        exact ha.value?_eq_none (List.nodup_cons.mp hd).1
      cases d with
      | looked j x found =>
        obtain rfl : j = k := hk
        obtain rfl : found = _ := hdeed
        cases hv : ((after s h).cache j).value? x with
        | none => exact ⟨(tally_looked ..).trans hhit, (tally_looked ..).trans hnew⟩
        | some v =>
          rw [hv] at hnone
          cases (hnone x v (dif_pos rfl)).symm.trans hv
      | stored j x v new =>
        obtain rfl : j = k := hk
        obtain rfl : new = _ := hdeed
        have hcontains : ((after s h).cache j).contains x = false := by
          rw [Cache.contains_eq_isSome_value?, hnone x v (dif_pos rfl)]
          rfl
        have hgives : ∀ new, (Deed.stored j x v new).gives? j = some (x, v) := fun _ => dif_pos rfl
        rw [hcontains, tally_stored, tally_stored, given_cons, hgives, hhit, hnew]
        exact ⟨rfl, rfl⟩
      | _ => cases huse
    · have hquiet : d.kind ≠ k ∨ d.isUse = false := by
        rw [Decidable.not_and_iff_or_not, Bool.not_eq_true] at hk
        exact hk
      rw [given_cons_of_quiet h i hquiet, tally_cons_of_quiet h i hquiet d.isUse_of_isHit,
        tally_cons_of_quiet h i hquiet d.isUse_of_isNew]
      exact ⟨hhit, hnew⟩

theorem countsLe_perform (s : Service) (d : Deed) (k : Kind) :
    Cache.CountsLe (s.cache k) ((d.perform s).cache k) := by
  cases d with
  | looked j x found =>
    exact Service.cache_withCache s j k _ (fun i c => Cache.CountsLe (s.cache i) c)
      (Cache.countsLe_get _ _) fun _ => .refl _
  | stored j x v new =>
    exact Service.cache_withCache s j k _ (fun i c => Cache.CountsLe (s.cache i) c)
      (Cache.countsLe_insert _ _ _) fun _ => .refl _
  | _ => exact .refl _

theorem countsLe_after_append (s : Service) (k : Kind) (ds h : History) :
    Cache.CountsLe ((h.after s).cache k) ((after s (ds ++ h)).cache k) := by
  induction ds with
  | nil => exact .refl _
  | cons d ds ih => exact ih.trans (countsLe_perform (after s (ds ++ h)) d.2 k)

end History

end ExplorerProxy
