import ExplorerProxy.Endpoints
import ExplorerProxy.Proofs.Url.Authority

/-!
# Paths put behind an address

An address that can be read, less the slashes at its end, with a slash and a path put
behind it. On the web the new address leads to the same host and port, if it can be read
at all; and whether it can be read does not depend on the path.
-/

namespace ExplorerProxy

set_option autoImplicit false

namespace Url

theorem inAuthority_of_margin (scheme : String) {c : Char} (hc : isMargin c = true) :
    inAuthority scheme c = true := by
  have hslash := isMargin_ne hc (d := '/') (by decide)
  have hbackslash := isMargin_ne hc (d := '\\') (by decide)
  have hquestion := isMargin_ne hc (d := '?') (by decide)
  have hnumber := isMargin_ne hc (d := '#') (by decide)
  simp [inAuthority, endsAuthority, isSlash, hslash, hbackslash, hquestion, hnumber]

theorem authority_append_slashes (scheme : String) (cs : List Char) (n : Nat) :
    authority scheme (cs ++ List.replicate n '/') = authority scheme cs :=
  takeWhile_append_replicate rfl cs n

section Web

variable [InternationalNames] {scheme : String} (hweb : family scheme = .web)
include hweb

theorem parseAuthority_append_slashes (cs : List Char) (n : Nat) :
    parseAuthority scheme (cs ++ List.replicate n '/') =
      readAuthority scheme true (authority scheme cs) := by
  rw [parseAuthority_eq, authority_append_slashes, readAuthority_of_web hweb,
    readAuthority_of_web hweb true]

theorem authority_append [LawfulInternationalNames] {cs m : List Char}
    (hm : ∀ c ∈ m, isMargin c = true) {u : Url}
    (h : readAuthority scheme true (authority scheme (cs ++ m)) = .ok u) :
    authority scheme (cs ++ m) = authority scheme cs := by
  by_cases hstop : ∃ c ∈ cs, inAuthority scheme c = false
  · exact takeWhile_append_of_stop hstop m
  · -- all of the text is authority, and so is what stands at its end
    simp only [not_exists, not_and, Bool.not_eq_false] at hstop
    have hall : ∀ c ∈ cs ++ m, inAuthority scheme c = true := fun c hc =>
      (List.mem_append.mp hc).elim (hstop c) fun hc => inAuthority_of_margin scheme (hm c hc)
    cases m with
    | nil => rw [List.append_nil]
    | cons c m =>
      have hbackslash : '\\' ∉ cs := by
        intro hmem
        have hin := hstop _ hmem
        rw [inAuthority, hweb] at hin
        exact absurd hin (by decide)
      rw [authority, List.takeWhile_eq_self_iff.mpr hall] at h
      exact absurd h (readAuthority_append (List.cons_ne_nil c m) hm hweb true hbackslash u)

variable {q : List Char}

theorem afterScheme_of_web (rest : List Char) :
    afterScheme scheme rest = parseAuthority scheme (rest.dropWhile (isSlash .web)) := by
  simp only [afterScheme, hweb]

theorem exists_not_isSlash {n : Nat}
    (h : (afterScheme scheme (q ++ List.replicate n '/')).isOk = true) :
    ∃ c ∈ q, isSlash .web c = false := by
  by_contra hall
  simp only [not_exists, not_and, Bool.not_eq_false] at hall
  have hnil : (q ++ List.replicate n '/').dropWhile (isSlash .web) = [] := by
    rw [List.dropWhile_append_of_pos hall, List.dropWhile_replicate, if_pos (by decide)]
  rw [afterScheme_of_web hweb, hnil, parseAuthority_eq, readAuthority_of_web hweb] at h
  have hempty : readAuthority scheme false [] = .error .emptyHost := parseHostPort_nil hweb false
  change (readAuthority scheme false []).isOk = true at h
  rw [hempty] at h
  cases h

theorem afterScheme_append_slash (hq : ∃ c ∈ q, isSlash .web c = false) (m more : List Char) :
    afterScheme scheme (q ++ m ++ '/' :: more) =
      readAuthority scheme true (authority scheme (q.dropWhile (isSlash .web) ++ m)) := by
  rw [afterScheme_of_web hweb, List.append_assoc, dropWhile_append_of_stop hq, ← List.append_assoc,
    parseAuthority_append_slash]

theorem afterScheme_of_append [LawfulInternationalNames] {m more : List Char}
    (hm : ∀ c ∈ m, isMargin c = true) {n : Nat}
    (hbase : (afterScheme scheme (q ++ List.replicate n '/')).isOk = true) {u : Url}
    (h : afterScheme scheme (q ++ m ++ '/' :: more) = .ok u) :
    afterScheme scheme (q ++ List.replicate n '/') = .ok u := by
  have hq := exists_not_isSlash hweb hbase
  rw [afterScheme_append_slash hweb hq] at h
  have hsame := authority_append hweb hm h
  rw [hsame] at h
  rw [afterScheme_of_web hweb, dropWhile_append_of_stop hq, parseAuthority_append_slashes hweb, h]

end Web

def IsPath (more : List Char) : Prop :=
  ∃ word rest, (word = "token".toList ∨ word = "address".toList) ∧ more = word ++ '/' :: rest

section Paths

variable [InternationalNames] {scheme : String} {more : List Char}

def fileHost (hostText : List Char) : Except UrlError Url :=
  if hostText.isEmpty || isDriveLetter hostText then .ok ⟨"file", none, none⟩
  else
    match Host.parse hostText with
    | .error e => .error e
    | .ok host => .ok ⟨"file", if host = .domain "localhost" then none else some host, none⟩

theorem parseFile_cons_cons (a b : Char) (rest : List Char) :
    parseFile (a :: b :: rest) =
      if isSlash .file a && isSlash .file b then
        fileHost (rest.takeWhile fun c => !endsAuthority .file c)
      else .ok ⟨"file", none, none⟩ := rfl

theorem fileHost_of_plainOnly {hostText : List Char} {u : Url}
    (h : @fileHost .plainOnly hostText = .ok u) : fileHost hostText = .ok u := by
  unfold fileHost at h ⊢
  split at h
  · rename_i hnone
    rwa [if_pos hnone]
  · rename_i hsome
    rw [if_neg hsome]
    cases hhost : @Host.parse .plainOnly hostText with
    | error e =>
      rw [hhost] at h
      cases h
    | ok host =>
      rw [Host.parse_of_plainOnly hhost]
      rwa [hhost] at h

theorem parseFile_of_plainOnly {cs : List Char} {u : Url}
    (h : @parseFile .plainOnly cs = .ok u) : parseFile cs = .ok u := by
  match cs with
  | [] => exact h
  | [_] => exact h
  | a :: b :: rest =>
    rw [@parseFile_cons_cons .plainOnly] at h
    rw [parseFile_cons_cons]
    split at h
    · rename_i hslashes
      rw [if_pos hslashes]
      exact fileHost_of_plainOnly h
    · rename_i hslashes
      rw [if_neg hslashes]
      exact h

theorem isOk_parseFile_pair (a b : Char) : (parseFile [a, b]).isOk = true := by
  rw [parseFile_cons_cons]
  split <;> rfl

theorem isOk_fileHost_word {word : List Char}
    (hword : word = "token".toList ∨ word = "address".toList) (rest : List Char) :
    (fileHost ((word ++ '/' :: rest).takeWhile fun c => !endsAuthority .file c)).isOk = true := by
  rw [takeWhile_append_cons rfl]
  have hread : @fileHost .plainOnly (word.takeWhile fun c => !endsAuthority .file c) =
      .ok ⟨"file", some (.domain (String.ofList word)), none⟩ := by
    rcases hword with rfl | rfl <;> decide +kernel
  rw [fileHost_of_plainOnly hread]
  rfl

theorem isOk_parseFile_append_slash (hpath : IsPath more) (cs : List Char) :
    (parseFile (cs ++ '/' :: more)).isOk = (parseFile (cs ++ ['/'])).isOk := by
  match cs with
  | [] =>
    obtain ⟨word, rest, rfl | rfl, rfl⟩ := hpath <;> rfl
  | [c] =>
    obtain ⟨word, rest, hword, rfl⟩ := hpath
    change (parseFile (c :: '/' :: (word ++ '/' :: rest))).isOk = (parseFile [c, '/']).isOk
    rw [isOk_parseFile_pair, parseFile_cons_cons]
    split
    · exact isOk_fileHost_word hword rest
    · rfl
  | c :: d :: cs =>
    change (parseFile (c :: d :: (cs ++ '/' :: more))).isOk =
      (parseFile (c :: d :: (cs ++ '/' :: []))).isOk
    rw [parseFile_cons_cons, parseFile_cons_cons, takeWhile_append_cons rfl,
      takeWhile_append_cons rfl]

/-- An authority that can be read can be read with something behind it, unless it is an
at sign alone. -/
theorem isOk_readAuthority {more : Bool} {cs : List Char}
    (h : (readAuthority scheme more cs).isOk = true) (hcs : cs = ['@'] → more = true) :
    (readAuthority scheme true cs).isOk = true := by
  cases hsplit : splitLastAt cs with
  | none =>
    simp only [readAuthority, hsplit] at h ⊢
    exact h
  | some p =>
    obtain ⟨user, rest⟩ := p
    by_cases hempty : user.isEmpty = true ∧ rest.isEmpty = true
    · have hparts := splitLastAt_parts hsplit
      rw [List.isEmpty_iff.mp hempty.1, List.isEmpty_iff.mp hempty.2] at hparts
      obtain rfl := hcs hparts
      exact h
    · simp only [readAuthority, hsplit] at h ⊢
      rw [if_neg fun hall => hempty ⟨hall.1, hall.2.1⟩] at h ⊢
      exact h

section Other

variable (hother : family scheme = .other)
include hother

theorem afterScheme_cons_cons (a b : Char) (rest : List Char) :
    afterScheme scheme (a :: b :: rest) =
      if a = '/' ∧ b = '/' then parseAuthority scheme rest else .ok ⟨scheme, none, none⟩ := by
  by_cases h : a = '/' ∧ b = '/'
  · obtain ⟨rfl, rfl⟩ := h
    simp only [afterScheme, hother, and_self, if_true]
  · rw [if_neg h]
    simp only [afterScheme, hother]
    split
    · rename_i heq
      obtain ⟨ha, hb⟩ := List.cons.inj heq
      exact absurd ⟨ha, (List.cons.inj hb).1⟩ h
    · rfl

theorem isOk_readAuthority_word (more : Bool) {word : List Char}
    (hword : word = [] ∨ word = "token".toList ∨ word = "address".toList) :
    (readAuthority scheme more word).isOk = true := by
  rcases hword with rfl | rfl | rfl
  · simp only [readAuthority, splitLastAt, parseHostPort, splitHost, hother]
    rfl
  all_goals
    simp only [readAuthority, splitLastAt, parseHostPort, hother]
    rfl

theorem isOk_parseAuthority_word {word : List Char}
    (hword : word = "token".toList ∨ word = "address".toList) (rest : List Char) :
    (parseAuthority scheme (word ++ '/' :: rest)).isOk = true := by
  have hin : ∀ c, inAuthority scheme c = !endsAuthority .other c := fun c => by
    rw [inAuthority, hother]
  have hall : authority scheme word = word := by
    rw [authority, List.takeWhile_eq_self_iff, ← List.all_eq_true, funext hin]
    rcases hword with rfl | rfl <;> decide
  rw [parseAuthority_append_slash, hall]
  exact isOk_readAuthority_word hother true (Or.inr hword)

theorem isOk_parseAuthority_nil : (parseAuthority scheme []).isOk = true := by
  rw [parseAuthority_eq]
  exact isOk_readAuthority_word hother _ (Or.inl rfl)

theorem isOk_afterScheme_of_other (hpath : IsPath more) (cs : List Char) :
    (afterScheme scheme (cs ++ '/' :: more)).isOk = (afterScheme scheme (cs ++ ['/'])).isOk := by
  match cs with
  | [] =>
    have hnone : afterScheme scheme ['/'] = .ok ⟨scheme, none, none⟩ := by
      simp only [afterScheme, hother]
    obtain ⟨word, rest, rfl | rfl, rfl⟩ := hpath
    · change (afterScheme scheme ('/' :: 't' :: _)).isOk = (afterScheme scheme ['/']).isOk
      rw [afterScheme_cons_cons hother, if_neg (by decide), hnone]
    · change (afterScheme scheme ('/' :: 'a' :: _)).isOk = (afterScheme scheme ['/']).isOk
      rw [afterScheme_cons_cons hother, if_neg (by decide), hnone]
  | [c] =>
    obtain ⟨word, rest, hword, rfl⟩ := hpath
    have hempty := isOk_parseAuthority_nil hother
    change (afterScheme scheme (c :: '/' :: (word ++ '/' :: rest))).isOk =
      (afterScheme scheme (c :: '/' :: [])).isOk
    rw [afterScheme_cons_cons hother, afterScheme_cons_cons hother]
    split
    · rw [isOk_parseAuthority_word hother hword, hempty]
    · rfl
  | c :: d :: cs =>
    change (afterScheme scheme (c :: d :: (cs ++ '/' :: more))).isOk =
      (afterScheme scheme (c :: d :: (cs ++ '/' :: []))).isOk
    rw [afterScheme_cons_cons hother, afterScheme_cons_cons hother, parseAuthority_append_slash,
      parseAuthority_append_slash]

theorem isOk_slash_of_other {q : List Char} {n : Nat} (hat : q.getLast? = some '@' → n ≠ 0)
    (hbase : (afterScheme scheme (q ++ List.replicate n '/')).isOk = true) :
    (afterScheme scheme (q ++ ['/'])).isOk = true := by
  match q with
  | [] =>
    simp only [List.nil_append, afterScheme, hother]
    rfl
  | [c] =>
    change (afterScheme scheme (c :: '/' :: [])).isOk = true
    rw [afterScheme_cons_cons hother]
    split
    · exact isOk_parseAuthority_nil hother
    · rfl
  | c :: d :: cs =>
    change (afterScheme scheme (c :: d :: (cs ++ '/' :: []))).isOk = true
    change (afterScheme scheme (c :: d :: (cs ++ List.replicate n '/'))).isOk = true at hbase
    rw [afterScheme_cons_cons hother] at hbase ⊢
    split
    · rename_i hslashes
      rw [if_pos hslashes, parseAuthority_eq, authority_append_slashes] at hbase
      rw [parseAuthority_append_slash]
      refine isOk_readAuthority hbase fun hcs => decide_eq_true ?_
      -- more than the at sign is there: a slash, if nothing else
      have hprefix := List.takeWhile_prefix (l := cs) (inAuthority scheme)
      rw [← authority, hcs] at hprefix
      obtain ⟨tail, rfl⟩ := hprefix
      cases tail with
      | nil =>
        have hn : n ≠ 0 := hat rfl
        simp only [List.append_nil, List.length_append, List.length_replicate]
        exact Nat.lt_add_of_pos_right (Nat.pos_of_ne_zero hn)
      | cons e tail =>
        simp only [hcs, List.length_append, List.length_cons, List.length_nil]
        omega
    · rfl

end Other

theorem isOk_slash_of_file {q : List Char} {n : Nat}
    (hbase : (parseFile (q ++ List.replicate n '/')).isOk = true) :
    (parseFile (q ++ ['/'])).isOk = true := by
  match q with
  | [] => rfl
  | [c] => exact isOk_parseFile_pair c '/'
  | c :: d :: cs =>
    change (parseFile (c :: d :: (cs ++ List.replicate n '/'))).isOk = true at hbase
    change (parseFile (c :: d :: (cs ++ '/' :: []))).isOk = true
    rw [parseFile_cons_cons] at hbase ⊢
    rw [takeWhile_append_cons rfl]
    rwa [takeWhile_append_replicate rfl] at hbase

theorem isOk_afterScheme_slash {q : List Char} {n : Nat} (hat : q.getLast? = some '@' → n ≠ 0)
    (hbase : (afterScheme scheme (q ++ List.replicate n '/')).isOk = true) :
    (afterScheme scheme (q ++ ['/'])).isOk = true := by
  cases hfamily : family scheme with
  | web =>
    have hq := exists_not_isSlash hfamily hbase
    have hslash := afterScheme_append_slash hfamily hq [] []
    rw [List.append_nil, List.append_nil] at hslash
    rw [hslash]
    rwa [afterScheme_of_web hfamily, dropWhile_append_of_stop hq,
      parseAuthority_append_slashes hfamily] at hbase
  | file =>
    simp only [afterScheme, hfamily] at hbase ⊢
    exact isOk_slash_of_file hbase
  | other => exact isOk_slash_of_other hfamily hat hbase

theorem isOk_afterScheme_append_slash (hpath : IsPath more) {q m : List Char} {n : Nat}
    (hbase : (afterScheme scheme (q ++ List.replicate n '/')).isOk = true) :
    (afterScheme scheme (q ++ m ++ '/' :: more)).isOk =
      (afterScheme scheme (q ++ m ++ ['/'])).isOk := by
  cases hfamily : family scheme with
  | web =>
    have hq := exists_not_isSlash hfamily hbase
    rw [afterScheme_append_slash hfamily hq, afterScheme_append_slash hfamily hq]
  | file =>
    simp only [afterScheme, hfamily]
    exact isOk_parseFile_append_slash hpath _
  | other => exact isOk_afterScheme_of_other hfamily hpath _

end Paths

theorem scheme_of_parseFile [InternationalNames] {rest : List Char} {u : Url}
    (h : parseFile rest = .ok u) : u.scheme = "file" := by
  have hhost : ∀ text, fileHost text = .ok u → u.scheme = "file" := by
    intro text htext
    unfold fileHost at htext
    split at htext
    · cases htext
      rfl
    · split at htext
      · cases htext
      · cases htext
        rfl
  match rest with
  | [] =>
    cases h
    rfl
  | [_] =>
    cases h
    rfl
  | a :: b :: rest =>
    rw [parseFile_cons_cons] at h
    split at h
    · exact hhost _ h
    · cases h
      rfl

theorem family_of_afterScheme [InternationalNames] {scheme : String} {rest : List Char} {u : Url}
    (h : afterScheme scheme rest = .ok u) : family u.scheme = family scheme := by
  have hauthority : ∀ cs, parseAuthority scheme cs = .ok u → u.scheme = scheme := by
    intro cs hcs
    rw [parseAuthority_eq] at hcs
    exact (readAuthority_eq_ok hcs).1
  unfold afterScheme at h
  split at h
  · rw [hauthority _ h]
  · rename_i hfile
    rw [scheme_of_parseFile h, hfile]
    rfl
  · split at h
    · rw [hauthority _ h]
    · cases h
      rfl

/-- An address that is read where only host names of ASCII characters are is read the same
whatever other names are. -/
theorem parse_of_plainOnly [InternationalNames] {s : String} {u : Url}
    (h : @parse .plainOnly s = .ok u) : parse s = .ok u := by
  unfold parse at h ⊢
  split at h
  · cases h
  · split at h
    · exact parseAuthority_of_plainOnly h
    · exact parseFile_of_plainOnly h
    · split at h
      · exact parseAuthority_of_plainOnly h
      · exact h

theorem exists_slashes (s : String) :
    ∃ n, s.toList = (trimSlashes s).toList ++ List.replicate n '/' := by
  have hslashes : ∀ c ∈ s.toList.rtakeWhile (· == '/'), c = '/' := fun c hc =>
    eq_of_beq (List.mem_rtakeWhile_imp (p := (· == '/')) hc)
  refine ⟨(s.toList.rtakeWhile (· == '/')).length, ?_⟩
  rw [← List.eq_replicate_of_mem hslashes, trimSlashes, String.toList_ofList]
  exact List.rdropWhile_append_rtakeWhile.symm

theorem IsPath.closing {more : List Char} (h : IsPath more) : IsPath (closing more) := by
  obtain ⟨word, rest, hword, rfl⟩ := h
  refine ⟨word, Url.closing rest, hword, ?_⟩
  rw [closing_append_cons (by decide) (by decide)]
  congr 1
  rcases hword with rfl | rfl <;> decide

section Pages

variable [InternationalNames] {site : String}

/-- How an address is read, and how it is read with more behind it: what was passed over
at its end is then part of it. -/
theorem parse_continued (hsite : (parse site).isOk = true) :
    ∃ scheme q m n, parse site = afterScheme scheme (q ++ List.replicate n '/') ∧
      (∀ c ∈ m, isMargin c = true) ∧
      (∀ c, site.toList.getLast? = some c → isMargin c = false →
        m = [] ∧ (n = 0 → ∀ d, q.getLast? = some d → d = c)) ∧
      ∀ (page : String) (more : List Char),
        page.toList = (trimSlashes site).toList ++ '/' :: more →
        parse page = afterScheme scheme (q ++ m ++ '/' :: closing more) := by
  obtain ⟨n, hn⟩ := exists_slashes site
  obtain ⟨s, m, hs, hopening, hm, hlast⟩ := significant_append_slashes (trimSlashes site).toList n
  rw [← hn] at hlast
  rw [parse_eq, hn, hs] at hsite ⊢
  cases hsplit : splitScheme? (s ++ List.replicate n '/') with
  | none =>
    rw [hsplit] at hsite
    cases hsite
  | some p =>
    obtain ⟨scheme, rest⟩ := p
    obtain ⟨q, hq, rfl⟩ := splitScheme?_of_append_slashes hsplit
    refine ⟨scheme, q, m, n, rfl, hm, ?_, ?_⟩
    · intro c hc hplain
      obtain ⟨hnil, hsame⟩ := hlast c (hn ▸ hc) hplain
      obtain ⟨front, rfl⟩ := exists_append_of_splitScheme? hq
      refine ⟨hnil, fun hzero d hd => ?_⟩
      have hboth := hsame hzero
      rw [List.getLast?_append, hd] at hboth
      exact Option.some.inj hboth
    · intro page more hpage
      rw [parse_eq, hpage, significant_append_slash, hopening, List.append_assoc,
        splitScheme?_append hq, ← List.append_assoc]

variable (hsite : (parse site).isOk = true) {page : String} {more : List Char}
  (hpage : page.toList = (trimSlashes site).toList ++ '/' :: more)
include hsite hpage

/-- A page that is on the web is where its site is. -/
theorem parse_site_of_page [LawfulInternationalNames] {u : Url} (h : parse page = .ok u)
    (hweb : family u.scheme = .web) :
    parse site = .ok u ∧ ∃ hostText host, Host.parse hostText = .ok host ∧ u.host = some host := by
  obtain ⟨scheme, q, m, n, hparse, hm, _, hcontinued⟩ := parse_continued hsite
  rw [hparse] at hsite ⊢
  rw [hcontinued page more hpage] at h
  have hfamily := family_of_afterScheme h
  rw [hweb] at hfamily
  have hsame := afterScheme_of_append hfamily.symm hm hsite h
  refine ⟨hsame, ?_⟩
  rw [afterScheme_of_web hfamily.symm, parseAuthority_eq] at hsame
  exact (readAuthority_eq_ok hsame).2 hfamily.symm

/-- Whether the address of a page can be read does not depend on the page. -/
theorem isOk_parse_page (hpath : IsPath more) :
    (parse page).isOk = (parse (trimSlashes site ++ "/")).isOk := by
  obtain ⟨scheme, q, m, n, hparse, _, _, hcontinued⟩ := parse_continued hsite
  rw [hparse] at hsite
  rw [hcontinued page more hpage, hcontinued (trimSlashes site ++ "/") [] (by simp),
    isOk_afterScheme_append_slash hpath.closing hsite]
  rfl

omit hpage in
/-- With a plain character at its end, other than an at sign, a site has pages. -/
theorem isOk_parse_slash {c : Char} (hlast : site.toList.getLast? = some c)
    (hc : isMargin c = false) (hat : c ≠ '@') :
    (parse (trimSlashes site ++ "/")).isOk = true := by
  obtain ⟨scheme, q, m, n, hparse, _, hend, hcontinued⟩ := parse_continued hsite
  obtain ⟨rfl, hsame⟩ := hend c hlast hc
  rw [hparse] at hsite
  rw [hcontinued (trimSlashes site ++ "/") [] (by simp), List.append_nil]
  exact isOk_afterScheme_slash (fun hq hn => hat (hsame hn _ hq).symm) hsite

end Pages

end Url

end ExplorerProxy
