import ExplorerProxy.Proofs.Explorer.Sites

/-!
# Attempts at overrides

A caller that goes on with the table it had when an override is refused. Each attempt is
judged by its text alone, and concerns no network but its own; so what a table gives for a
network is told by the last text that was accepted for it, whatever stands between.
-/

namespace ExplorerProxy

set_option autoImplicit false

theorem getLast?_trimSlashes (s : String) : (trimSlashes s).toList.getLast? ≠ some '/' := by
  intro h
  rw [trimSlashes, String.toList_ofList, List.getLast?_reverse] at h
  have hhead := List.head?_dropWhile_not (· == '/') s.toList.reverse
  rw [h] at hhead
  simp at hhead

namespace Endpoints

theorem resolve_tag (t : Endpoints) (n : Network) : t.resolve n.tag = .ok (n, t.base n) := by
  rw [resolve, Network.ofTag?_tag]

theorem resolve_of_notMem (t : Endpoints) {tag : String} (h : tag ∉ Network.all.map Network.tag) :
    t.resolve tag = .error (.unsupportedNetwork tag) := by
  cases hn : Network.ofTag? tag with
  | none => rw [resolve, hn]
  | some n =>
    rw [Network.eq_tag hn] at h
    exact absurd (List.mem_map_of_mem n.mem_all) h

variable [InternationalNames]

/-- A table after an attempt at an override: if the override is refused, it stays as it is. -/
def attempt (t : Endpoints) (o : Network × String) : Endpoints :=
  match t.override o.1 o.2 with
  | .ok t' => t'
  | .error _ => t

def afterAttempts (os : List (Network × String)) : Endpoints := os.foldl attempt builtIn

theorem override_eq_error (t : Endpoints) (n : Network) (url : String) (e : ConfigError) :
    t.override n url = .error e ↔
      ∃ cause, Url.parse url = .error cause ∧ e = .invalidEndpoint n url cause := by
  unfold override
  cases hurl : Url.parse url with
  | error cause => simp [eq_comm]
  | ok u => simp

theorem given?_attempt (t : Endpoints) (o : Network × String) (n : Network) :
    (t.attempt o).given? n =
      if o.1 = n ∧ (Url.parse o.2).isOk = true then some (trimSlashes o.2) else t.given? n := by
  unfold attempt
  cases hurl : (Url.parse o.2).isOk with
  | true =>
    rw [override_of_accepted t o.1 hurl]
    simp [Endpoints.set, eq_comm]
  | false =>
    cases hover : t.override o.1 o.2 with
    | error e => simp
    | ok t' =>
      have haccepted := (override_eq_ok hover).1
      rw [hurl] at haccepted
      cases haccepted

section Sequences

variable {n : Network}

theorem given?_foldl_of_skipped (t : Endpoints) {os : List (Network × String)}
    (h : ∀ o ∈ os, o.1 = n → (Url.parse o.2).isOk = false) :
    (os.foldl attempt t).given? n = t.given? n := by
  induction os generalizing t with
  | nil => rfl
  | cons o os ih =>
    have hskip : ¬ (o.1 = n ∧ (Url.parse o.2).isOk = true) := by
      rintro ⟨hn, hok⟩
      rw [h o List.mem_cons_self hn] at hok
      cases hok
    rw [List.foldl_cons, ih _ fun o' ho' => h o' (List.mem_cons_of_mem o ho'), given?_attempt,
      if_neg hskip]

theorem given?_foldl_congr {t t' : Endpoints} (h : t.given? n = t'.given? n)
    (os : List (Network × String)) :
    (os.foldl attempt t).given? n = (os.foldl attempt t').given? n := by
  induction os generalizing t t' with
  | nil => exact h
  | cons o os ih =>
    apply ih
    rw [given?_attempt, given?_attempt, h]

theorem given?_foldl_filter (t : Endpoints) (os : List (Network × String)) (n : Network) :
    (os.foldl attempt t).given? n = ((os.filter (·.1 = n)).foldl attempt t).given? n := by
  induction os generalizing t with
  | nil => rfl
  | cons o os ih =>
    rw [List.foldl_cons, ih]
    by_cases hn : o.1 = n
    · rw [List.filter_cons_of_pos (by simpa using hn), List.foldl_cons]
    · have hother : (t.attempt o).given? n = t.given? n := by
        rw [given?_attempt, if_neg fun h => hn h.1]
      rw [List.filter_cons_of_neg (by simpa using hn), given?_foldl_congr hother]

theorem given?_of_accepted {before after : List (Network × String)} {url : String}
    (hok : (Url.parse url).isOk = true)
    (hafter : ∀ o ∈ after, o.1 = n → (Url.parse o.2).isOk = false) :
    (afterAttempts (before ++ (n, url) :: after)).given? n = some (trimSlashes url) := by
  rw [afterAttempts, List.foldl_append, List.foldl_cons, given?_foldl_of_skipped _ hafter,
    given?_attempt, if_pos ⟨rfl, hok⟩]

theorem base_afterAttempts_cases (os : List (Network × String)) (n : Network) :
    (afterAttempts os).base n = n.defaultBase ∨
      ∃ url, (afterAttempts os).base n = trimSlashes url := by
  induction os using List.reverseRecOn with
  | nil => exact Or.inl rfl
  | append_singleton os o ih =>
    have hlast : (afterAttempts (os ++ [o])).given? n =
        ((afterAttempts os).attempt o).given? n := by
      rw [afterAttempts, List.foldl_append]
      rfl
    rw [base, hlast, given?_attempt]
    split
    · exact Or.inr ⟨o.2, rfl⟩
    · exact ih

end Sequences

/-- What a table gives, told from the attempts that led to it. -/
structure Reflects (t : Endpoints) (os : List (Network × String)) : Prop where
  /-- The last text that was accepted for a network, less the slashes at its end. -/
  base_of_accepted : ∀ before n url after, os = before ++ (n, url) :: after →
    (Url.parse url).isOk = true → (∀ o ∈ after, o.1 = n → (Url.parse o.2).isOk = false) →
      ∃ k, url.toList = (t.base n).toList ++ List.replicate k '/'
  base_of_refused : ∀ n, (∀ o ∈ os, o.1 = n → (Url.parse o.2).isOk = false) →
    t.base n = n.defaultBase
  no_slash : ∀ n, (t.base n).toList.getLast? ≠ some '/'
  holdersPage_eq : ∀ n token,
    t.holdersPage n token = t.base n ++ "/" ++ ("token/generic-tokenholders2?a=" ++ token)
  addressPage_eq : ∀ n address, t.addressPage n address = t.base n ++ "/" ++ ("address/" ++ address)
  resolve_tag : ∀ n, t.resolve n.tag = .ok (n, t.base n)
  resolve_other : ∀ tag, tag ∉ Network.all.map Network.tag →
    t.resolve tag = .error (.unsupportedNetwork tag)

theorem afterAttempts_reflects (os : List (Network × String)) : (afterAttempts os).Reflects os where
  base_of_accepted before n url after hos hok hafter := by
    subst hos
    rw [base, given?_of_accepted hok hafter]
    exact Url.exists_slashes url
  base_of_refused n h := by
    rw [base, afterAttempts, given?_foldl_of_skipped _ h]
    rfl
  no_slash n := by
    rcases base_afterAttempts_cases os n with hbase | ⟨url, hbase⟩
    · rw [hbase]
      cases n <;> decide
    · rw [hbase]
      exact getLast?_trimSlashes url
  holdersPage_eq n token := by
    have hpath : "/token/generic-tokenholders2?a=" = "/" ++ "token/generic-tokenholders2?a=" := by
      decide
    change (afterAttempts os).base n ++ "/token/generic-tokenholders2?a=" ++ token = _
    rw [hpath, ← String.append_assoc, String.append_assoc]
  addressPage_eq n address := by
    have hpath : "/address/" = "/" ++ "address/" := by decide
    change (afterAttempts os).base n ++ "/address/" ++ address = _
    rw [hpath, ← String.append_assoc, String.append_assoc]
  resolve_tag := (afterAttempts os).resolve_tag
  resolve_other _ h := (afterAttempts os).resolve_of_notMem h

/-- Whatever attempts are made at overrides, the table tells the last text accepted for each
network. An attempt is refused just when its text cannot be read, the error names the text and
the network, and the table stays. The attempts for one network say all about it, so that
those for different networks may come in any order. -/
theorem attempts_settle_each_network :
    (∀ os, (afterAttempts os).Reflects os) ∧
      (∀ (t : Endpoints) (n : Network) (url : String) (e : ConfigError),
        t.override n url = .error e ↔
          ∃ cause, Url.parse url = .error cause ∧ e = .invalidEndpoint n url cause) ∧
      (∀ (t : Endpoints) (n : Network) (url : String) (e : ConfigError),
        t.override n url = .error e → t.attempt (n, url) = t ∧
          e.message = "Invalid endpoint " ++ Text.quote url ++ " for network " ++ n.tag) ∧
      (∀ os n, (afterAttempts os).base n = (afterAttempts (os.filter (·.1 = n))).base n) ∧
      ∀ os os' : List (Network × String),
        (∀ n, os.filter (·.1 = n) = os'.filter (·.1 = n)) →
          afterAttempts os = afterAttempts os' := by
  refine ⟨afterAttempts_reflects, override_eq_error, ?_, ?_, ?_⟩
  · intro t n url e he
    refine ⟨by rw [attempt, he], ?_⟩
    obtain ⟨cause, _, rfl⟩ := (override_eq_error t n url e).mp he
    rfl
  · intro os n
    rw [base, base, afterAttempts, afterAttempts, given?_foldl_filter]
  · intro os os' h
    have hgiven : ∀ n, (afterAttempts os).given? n = (afterAttempts os').given? n := by
      intro n
      rw [afterAttempts, afterAttempts, given?_foldl_filter, h n, ← given?_foldl_filter]
    exact congrArg Endpoints.mk (funext hgiven)

end Endpoints

end ExplorerProxy
