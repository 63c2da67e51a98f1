import ExplorerProxy.Proofs.Explorer.Overrides
import ExplorerProxy.Proofs.Number.Whole
import Mathlib.Data.List.Nodup

/-!
# What is read from variables

A configuration is read just when every variable that is set is valid. Each setting is then
what its own variable says, or its default if that is not set; no other variable counts. If
some variable is not valid, the first of them in the order of reading is told, with its value
as it was set.
-/

namespace ExplorerProxy

set_option autoImplicit false

namespace Config

section Checks

variable {ε α β : Type}

/-- Whether a reading fails, and why, without what it reads. -/
def outcome (x : Except ε α) : Except ε Unit := x.map fun _ => ()

theorem outcome_eq_ok {x : Except ε α} : outcome x = .ok () ↔ ∃ a, x = .ok a := by
  cases x with
  | error e => exact ⟨fun h => (by cases h), fun ⟨_, h⟩ => (by cases h)⟩
  | ok a => exact ⟨fun _ => ⟨a, rfl⟩, fun _ => rfl⟩

theorem outcome_bind {x : Except ε α} {f : α → Except ε β} {y : Except ε Unit}
    (h : ∀ a, outcome (f a) = y) : outcome (x >>= f) = outcome x >>= fun _ => y := by
  cases x with
  | error e => rfl
  | ok a => exact h a

theorem forM_eq_ok {f : α → Except ε Unit} {l : List α} :
    forM l f = .ok () ↔ ∀ a ∈ l, f a = .ok () := by
  induction l with
  | nil => exact ⟨fun _ a ha => absurd ha List.not_mem_nil, fun _ => rfl⟩
  | cons a l ih =>
    rw [List.forM_cons, List.forall_mem_cons, ← ih]
    cases f a with
    | error e => exact ⟨fun h => (by cases h), fun h => (by cases h.1)⟩
    | ok _ => exact ⟨fun h => ⟨rfl, h⟩, fun h => h.2⟩

theorem exists_of_forM_eq_error {f : α → Except ε Unit} {l : List α} {e : ε}
    (h : forM l f = .error e) : ∃ before a after, l = before ++ a :: after ∧
      (∀ b ∈ before, f b = .ok ()) ∧ f a = .error e := by
  induction l with
  | nil => cases h
  | cons a l ih =>
    rw [List.forM_cons] at h
    cases ha : f a with
    | error e' =>
      rw [ha] at h
      exact ⟨[], a, l, rfl, fun b hb => absurd hb List.not_mem_nil, ha.trans h⟩
    | ok _ =>
      rw [ha] at h
      obtain ⟨before, b, after, rfl, hbefore, hb⟩ := ih h
      exact ⟨a :: before, b, after, rfl, List.forall_mem_cons.mpr ⟨ha, hbefore⟩, hb⟩

end Checks

def SaysAddress (s : String) (a : SocketAddress) : Prop := SocketAddress.parse? s = some a

def SaysWord64 (s : String) (w : UInt64) : Prop := Number.IsWhole s w.toNat

def SaysPositive64 (s : String) (w : UInt64) : Prop := w ≠ 0 ∧ Number.IsWhole s w.toNat

def SaysPositive32 (s : String) (w : UInt32) : Prop := w ≠ 0 ∧ Number.IsWhole s w.toNat

theorem socketAddress_eq_ok {s : String} {a : SocketAddress} :
    socketAddress s = .ok a ↔ SaysAddress s a := by
  unfold socketAddress SaysAddress
  cases SocketAddress.parse? s <;> simp

theorem word64_eq_ok {s : String} {w : UInt64} : word64 s = .ok w ↔ SaysWord64 s w := by
  rw [SaysWord64, ← Number.word64?_eq_ok]
  unfold word64
  cases Number.word64? s <;> simp

theorem positive64_eq_ok {s : String} {w : UInt64} :
    positive64 s = .ok w ↔ SaysPositive64 s w := by
  constructor
  · intro h
    obtain ⟨n, hn, h⟩ := exists_of_bind_eq_ok h
    split at h
    · cases h
    · cases h
      exact ⟨‹_›, word64_eq_ok.mp hn⟩
  · rintro ⟨hne, hw⟩
    rw [positive64, word64_eq_ok.mpr hw]
    exact if_neg hne

theorem positive32_eq_ok {s : String} {w : UInt32} :
    positive32 s = .ok w ↔ SaysPositive32 s w := by
  rw [SaysPositive32, ← Number.word32?_eq_ok]
  unfold positive32
  cases Number.word32? s with
  | error e => simp
  | ok n =>
    by_cases hn : n = 0
    · subst hn
      simp [eq_comm]
    · simp only [if_neg hn, Except.ok.injEq]
      constructor
      · rintro rfl
        exact ⟨hn, rfl⟩
      · exact fun h => h.2

section Settings

variable {α β : Type} {reader : ValueReader α} {means : String → α → Prop} {vars : Variables}
  {key : String}

/-- The value of a setting is what its variable says, without the blanks around it, or the
default if the variable is not set. -/
def TakenFrom (set? : Option String) (means : String → α → Prop) (default a : α) : Prop :=
  match set? with
  | none => a = default
  | some raw => means (Text.trimBlanks raw) a

theorem setting_cases (hreads : ∀ s a, reader s = .ok a ↔ means s a) {a? : Option α}
    (h : setting vars key reader = .ok a?) : vars key = none ∧ a? = none ∨
      ∃ raw a, vars key = some raw ∧ a? = some a ∧ means (Text.trimBlanks raw) a := by
  unfold setting at h
  cases hvar : vars key with
  | none =>
    rw [hvar] at h
    cases h
    exact Or.inl ⟨rfl, rfl⟩
  | some raw =>
    rw [hvar] at h
    dsimp only at h
    split at h
    · cases h
      exact Or.inr ⟨raw, _, rfl, rfl, (hreads _ _).mp ‹_›⟩
    · cases h

theorem takenFrom_of_setting (hreads : ∀ s a, reader s = .ok a ↔ means s a) {a? : Option α}
    (h : setting vars key reader = .ok a?) (default : α) :
    TakenFrom (vars key) means default (a?.getD default) := by
  rcases setting_cases hreads h with ⟨hvar, rfl⟩ | ⟨raw, a, hvar, rfl, ha⟩
  · rw [hvar]
    rfl
  · rw [hvar]
    exact ha

theorem takenFrom_map_of_setting (hreads : ∀ s a, reader s = .ok a ↔ means s a) {a? : Option α}
    (h : setting vars key reader = .ok a?) (f : α → β) (default : β) :
    TakenFrom (vars key) (fun s b => ∃ a, means s a ∧ b = f a) default
      ((a?.map f).getD default) := by
  rcases setting_cases hreads h with ⟨hvar, rfl⟩ | ⟨raw, a, hvar, rfl, ha⟩
  · rw [hvar]
    rfl
  · rw [hvar]
    exact ⟨a, ha, rfl⟩

theorem outcome_setting_eq_ok (hreads : ∀ s a, reader s = .ok a ↔ means s a) :
    outcome (setting vars key reader) = .ok () ↔
      ∀ raw, vars key = some raw → ∃ a, means (Text.trimBlanks raw) a := by
  unfold setting
  cases vars key with
  | none => exact ⟨fun _ raw hraw => (by cases hraw), fun _ => rfl⟩
  | some raw =>
    simp only [Option.some.injEq, forall_eq', ← hreads]
    cases reader (Text.trimBlanks raw) with
    | error reason => exact ⟨fun h => (by cases h), fun ⟨_, ha⟩ => (by cases ha)⟩
    | ok a => exact ⟨fun _ => ⟨a, rfl⟩, fun _ => rfl⟩

theorem exists_of_outcome_setting_eq_error {e : ConfigError}
    (h : outcome (setting vars key reader) = .error e) :
    ∃ raw reason, vars key = some raw ∧ e = .invalidValue key raw reason := by
  unfold setting at h
  cases hvar : vars key with
  | none =>
    rw [hvar] at h
    cases h
  | some raw =>
    rw [hvar] at h
    dsimp only at h
    split at h
    · cases h
    · cases h
      exact ⟨raw, _, rfl, rfl⟩

end Settings

section Sites

variable [InternationalNames] {vars : Variables} {t t' : Endpoints} {n : Network}

theorem given?_of_endpointFrom (h : endpointFrom vars t n = .ok t') (m : Network) :
    t'.given? m = if m = n then ((vars (endpointKey m)).map trimSlashes).or (t.given? m)
      else t.given? m := by
  unfold endpointFrom at h
  cases hvar : vars (endpointKey n) with
  | none =>
    rw [hvar] at h
    cases h
    by_cases hmn : m = n
    · rw [hmn, hvar, if_pos rfl]
      rfl
    · rw [if_neg hmn]
  | some url =>
    rw [hvar] at h
    obtain ⟨_, rfl⟩ := Endpoints.override_eq_ok h
    by_cases hmn : m = n
    · rw [hmn, hvar, if_pos rfl]
      exact if_pos rfl
    · rw [if_neg hmn]
      exact if_neg hmn

/-- Whether the site of a variable is accepted does not hang on the table it is put in. -/
theorem outcome_endpointFrom_eq (t t' : Endpoints) :
    outcome (endpointFrom vars t n) = outcome (endpointFrom vars t' n) := by
  unfold endpointFrom Endpoints.override
  cases vars (endpointKey n) with
  | none => rfl
  | some url =>
    dsimp only
    cases Url.parse url <;> rfl

theorem outcome_endpointFrom_eq_ok : outcome (endpointFrom vars t n) = .ok () ↔
    ∀ raw, vars (endpointKey n) = some raw → (Url.parse raw).isOk = true := by
  unfold endpointFrom Endpoints.override
  cases vars (endpointKey n) with
  | none => exact ⟨fun _ raw hraw => (by cases hraw), fun _ => rfl⟩
  | some url =>
    simp only [Option.some.injEq, forall_eq']
    cases Url.parse url with
    | error cause => exact ⟨fun h => (by cases h), fun h => (by cases h)⟩
    | ok u => exact ⟨fun _ => rfl, fun _ => rfl⟩

theorem exists_of_outcome_endpointFrom_eq_error {e : ConfigError}
    (h : outcome (endpointFrom vars t n) = .error e) :
    ∃ raw, vars (endpointKey n) = some raw ∧
      ∃ cause, Url.parse raw = .error cause ∧ e = .invalidEndpoint n raw cause := by
  unfold endpointFrom at h
  cases hvar : vars (endpointKey n) with
  | none =>
    rw [hvar] at h
    cases h
  | some url =>
    rw [hvar] at h
    cases hover : t.override n url with
    | ok t' =>
      simp only [hover] at h
      cases h
    | error e' =>
      simp only [hover] at h
      cases h
      exact ⟨url, rfl, (Endpoints.override_eq_error t n url e).mp hover⟩

end Sites

inductive Variable where
  | listenAddress
  | timeout
  | attempts
  | baseDelay
  | holdersCapacity
  | abiCapacity
  | site (n : Network)
  deriving DecidableEq

namespace Variable

/-- The variables in the order in which they are read. -/
def all : List Variable :=
  [.listenAddress, .timeout, .attempts, .baseDelay, .holdersCapacity, .abiCapacity] ++
    Network.all.map .site

def key : Variable → String
  | .listenAddress => listenKey
  | .timeout => timeoutKey
  | .attempts => attemptsKey
  | .baseDelay => baseDelayKey
  | .holdersCapacity => holdersCapacityKey
  | .abiCapacity => abiCapacityKey
  | .site n => endpointKey n

theorem mem_all (v : Variable) : v ∈ all := by
  cases v with
  | site n => exact List.mem_append_right _ (List.mem_map_of_mem n.mem_all)
  | _ => decide

theorem key_injective : Function.Injective key := by
  have hnodup : (all.map key).Nodup := by decide +kernel
  exact fun v w hkey => List.inj_on_of_nodup_map hnodup v.mem_all w.mem_all hkey

/-- What a configuration has for a variable, when that is set to some text or is not set. -/
def Gives (c : Config) (set? : Option String) : Variable → Prop
  | .listenAddress => TakenFrom set? SaysAddress standard.listenAddress c.listenAddress
  | .timeout => TakenFrom set? (fun s d => ∃ w, SaysPositive64 s w ∧ d = .ofSecs w)
      standard.requestTimeout c.requestTimeout
  | .attempts => TakenFrom set? SaysPositive32 standard.retry.maxAttempts c.retry.maxAttempts
  | .baseDelay => TakenFrom set? (fun s d => ∃ w, SaysWord64 s w ∧ d = .ofMillis w)
      standard.retry.baseDelay c.retry.baseDelay
  | .holdersCapacity => TakenFrom set? SaysWord64 standard.holdersCapacity c.holdersCapacity
  | .abiCapacity => TakenFrom set? SaysWord64 standard.abiCapacity c.abiCapacity
  | .site n => c.endpoints.given? n = set?.map trimSlashes

variable [InternationalNames]

/-- What a variable may be set to. All but the sites are read without the blanks around. -/
def Valid (raw : String) : Variable → Prop
  | .listenAddress => ∃ a, SaysAddress (Text.trimBlanks raw) a
  | .timeout => ∃ w, SaysPositive64 (Text.trimBlanks raw) w
  | .attempts => ∃ w, SaysPositive32 (Text.trimBlanks raw) w
  | .baseDelay | .holdersCapacity | .abiCapacity => ∃ w, SaysWord64 (Text.trimBlanks raw) w
  | .site _ => (Url.parse raw).isOk = true

/-- How a value that is not valid is told. -/
def Refuses (raw : String) (e : ConfigError) : Variable → Prop
  | .site n => ∃ cause, Url.parse raw = .error cause ∧ e = .invalidEndpoint n raw cause
  | v => ∃ reason, e = .invalidValue v.key raw reason

/-- What a reading makes of a variable, whatever the others are. -/
def check (vars : Variables) : Variable → Except ConfigError Unit
  | .listenAddress => outcome (setting vars listenKey socketAddress)
  | .timeout => outcome (setting vars timeoutKey positive64)
  | .attempts => outcome (setting vars attemptsKey positive32)
  | .baseDelay => outcome (setting vars baseDelayKey word64)
  | .holdersCapacity => outcome (setting vars holdersCapacityKey word64)
  | .abiCapacity => outcome (setting vars abiCapacityKey word64)
  | .site n => outcome (endpointFrom vars .builtIn n)

theorem check_eq_ok (vars : Variables) (v : Variable) :
    check vars v = .ok () ↔ ∀ raw, vars v.key = some raw → v.Valid raw := by
  cases v with
  | listenAddress => exact outcome_setting_eq_ok fun _ _ => socketAddress_eq_ok
  | timeout => exact outcome_setting_eq_ok fun _ _ => positive64_eq_ok
  | attempts => exact outcome_setting_eq_ok fun _ _ => positive32_eq_ok
  | baseDelay => exact outcome_setting_eq_ok fun _ _ => word64_eq_ok
  | holdersCapacity => exact outcome_setting_eq_ok fun _ _ => word64_eq_ok
  | abiCapacity => exact outcome_setting_eq_ok fun _ _ => word64_eq_ok
  | site n => exact outcome_endpointFrom_eq_ok

theorem exists_of_check_eq_error {vars : Variables} {v : Variable} {e : ConfigError}
    (h : check vars v = .error e) : ∃ raw, vars v.key = some raw ∧ v.Refuses raw e := by
  cases v with
  | site n => exact exists_of_outcome_endpointFrom_eq_error h
  | _ =>
    obtain ⟨raw, reason, hraw, he⟩ := exists_of_outcome_setting_eq_error h
    exact ⟨raw, hraw, reason, he⟩

end Variable

section Reading

variable [InternationalNames] {vars : Variables}

theorem outcome_foldlM_endpointFrom (vars : Variables) (ns : List Network) (t : Endpoints) :
    outcome (ns.foldlM (endpointFrom vars) t) =
      forM (ns.map Variable.site) (Variable.check vars) := by
  induction ns generalizing t with
  | nil => rfl
  | cons n ns ih =>
    rw [List.foldlM_cons, outcome_bind ih, List.map_cons, List.forM_cons,
      outcome_endpointFrom_eq t .builtIn]
    rfl

/-- A reading fails as the checks of the variables do, one after another. -/
theorem outcome_ofVariables (vars : Variables) :
    outcome (ofVariables vars) = forM Variable.all (Variable.check vars) := by
  have hsites := outcome_foldlM_endpointFrom vars Network.all .builtIn
  simp only [Variable.all, List.cons_append, List.nil_append, List.forM_cons, ← hsites]
  -- whatever a setting reads, the checks behind it stay the same
  refine outcome_bind fun listenAddress => ?_
  refine outcome_bind fun timeout => ?_
  refine outcome_bind fun attempts => ?_
  refine outcome_bind fun baseDelay => ?_
  refine outcome_bind fun holdersCapacity => ?_
  refine outcome_bind fun abiCapacity => ?_
  cases Network.all.foldlM (endpointFrom vars) .builtIn <;> rfl

theorem given?_of_foldlM {ns : List Network} {t t' : Endpoints}
    (h : ns.foldlM (endpointFrom vars) t = .ok t') (n : Network) :
    t'.given? n = if n ∈ ns then ((vars (endpointKey n)).map trimSlashes).or (t.given? n)
      else t.given? n := by
  induction ns generalizing t with
  | nil =>
    cases h
    rfl
  | cons m ns ih =>
    rw [List.foldlM_cons] at h
    obtain ⟨t₁, hstep, h⟩ := exists_of_bind_eq_ok h
    rw [ih h, given?_of_endpointFrom hstep]
    by_cases hmn : n = m
    · subst hmn
      cases vars (endpointKey n) <;> simp
    · simp [hmn]

theorem exists_ofVariables_eq_ok : (∃ c, ofVariables vars = .ok c) ↔
    ∀ (v : Variable) raw, vars v.key = some raw → v.Valid raw := by
  rw [← outcome_eq_ok, outcome_ofVariables, forM_eq_ok]
  constructor
  · exact fun h v => (Variable.check_eq_ok vars v).mp (h v v.mem_all)
  · exact fun h v _ => (Variable.check_eq_ok vars v).mpr (h v)

theorem gives_of_ofVariables {c : Config} (h : ofVariables vars = .ok c) :
    (∀ v : Variable, v.Gives c (vars v.key)) ∧ c.retry.maxDelay = standard.retry.maxDelay := by
  -- the six settings and the sites, each read from its own variables
  obtain ⟨listenAddress, hlisten, h⟩ := exists_of_bind_eq_ok h
  obtain ⟨timeout, htimeout, h⟩ := exists_of_bind_eq_ok h
  obtain ⟨attempts, hattempts, h⟩ := exists_of_bind_eq_ok h
  obtain ⟨baseDelay, hdelay, h⟩ := exists_of_bind_eq_ok h
  obtain ⟨holdersCapacity, hholders, h⟩ := exists_of_bind_eq_ok h
  obtain ⟨abiCapacity, habi, h⟩ := exists_of_bind_eq_ok h
  obtain ⟨endpoints, hsites, h⟩ := exists_of_bind_eq_ok h
  cases h
  refine ⟨fun v => ?_, rfl⟩
  cases v with
  | listenAddress => exact takenFrom_of_setting (fun _ _ => socketAddress_eq_ok) hlisten _
  | timeout => exact takenFrom_map_of_setting (fun _ _ => positive64_eq_ok) htimeout _ _
  | attempts => exact takenFrom_of_setting (fun _ _ => positive32_eq_ok) hattempts _
  | baseDelay => exact takenFrom_map_of_setting (fun _ _ => word64_eq_ok) hdelay _ _
  | holdersCapacity => exact takenFrom_of_setting (fun _ _ => word64_eq_ok) hholders _
  | abiCapacity => exact takenFrom_of_setting (fun _ _ => word64_eq_ok) habi _
  | site n =>
    have hgiven := given?_of_foldlM hsites n
    rw [if_pos n.mem_all] at hgiven
    exact hgiven.trans Option.or_none

theorem firstFault_of_ofVariables {e : ConfigError} (h : ofVariables vars = .error e) :
    ∃ before v after raw, Variable.all = before ++ v :: after ∧
      (∀ w ∈ before, ∀ raw', vars w.key = some raw' → w.Valid raw') ∧
      vars v.key = some raw ∧ ¬ v.Valid raw ∧ v.Refuses raw e := by
  have hchecks : forM Variable.all (Variable.check vars) = .error e := by
    rw [← outcome_ofVariables, h]
    rfl
  obtain ⟨before, v, after, hall, hbefore, hv⟩ := exists_of_forM_eq_error hchecks
  obtain ⟨raw, hraw, hrefuses⟩ := Variable.exists_of_check_eq_error hv
  refine ⟨before, v, after, raw, hall, ?_, hraw, ?_, hrefuses⟩
  · exact fun w hw => (Variable.check_eq_ok vars w).mp (hbefore w hw)
  · intro hvalid
    have hpassed : Variable.check vars v = .ok () := by
      refine (Variable.check_eq_ok vars v).mpr fun raw' hraw' => ?_
      obtain rfl : raw = raw' := Option.some.inj (hraw.symm.trans hraw')
      exact hvalid
    rw [hv] at hpassed
    cases hpassed

/-- Variables are read just when each is not set or valid. What is read then is what each
of them says for itself, or its default, and otherwise the fault that is told is that of the
first one that is not valid. Each has a name of its own, and the longest delay has none. -/
theorem ofVariables_reads_each (vars : Variables) :
    ((∃ c, ofVariables vars = .ok c) ↔
        ∀ (v : Variable) raw, vars v.key = some raw → v.Valid raw) ∧
      (∀ c, ofVariables vars = .ok c → (∀ v : Variable, v.Gives c (vars v.key)) ∧
        c.retry.maxDelay = standard.retry.maxDelay) ∧
      (∀ e, ofVariables vars = .error e →
        ∃ before v after raw, Variable.all = before ++ v :: after ∧
          (∀ w ∈ before, ∀ raw', vars w.key = some raw' → w.Valid raw') ∧
          vars v.key = some raw ∧ ¬ v.Valid raw ∧ v.Refuses raw e) ∧
      (∀ v, v ∈ Variable.all) ∧ Function.Injective Variable.key :=
  ⟨exists_ofVariables_eq_ok, fun _ => gives_of_ofVariables, fun _ => firstFault_of_ofVariables,
    Variable.mem_all, Variable.key_injective⟩

end Reading

end Config

end ExplorerProxy
