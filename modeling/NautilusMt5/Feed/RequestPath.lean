import NautilusMt5.Feed.Connections

/-!
# Forms of a request path (`normalize_feed_request_path`, `feed_path_matches`)

A client sends its path, or the whole URL. Both are cut at the query and stripped of their last slashes, but the path of
a URL is looked for in all that follows the scheme, the query included.

`formIndependent_iff`: when both forms get the answer that the path deserves.
-/

namespace NautilusMt5

open Py

/-! ## Paths up to slashes -/

/-- A path without its last slashes. -/
def rstripSlash (path : List Char) : List Char := path.rdropWhile (· = '/')

/-- The paths are equal up to trailing slashes; a configured path has a leading one. -/
def SamePath (path configuredPath : List Char) : Prop := rstripSlash path = rstripSlash (withSlash configuredPath)

/-- The configured path is a root with more than one slash. -/
def DoubledRoot (configuredPath : List Char) : Prop :=
  rstripSlash (withSlash configuredPath) = [] ∧ withSlash configuredPath ≠ ['/']

/-- A path of a request: nothing, or a leading slash. -/
def IsRequestPath (path : List Char) : Prop := path = [] ∨ path.head? = some '/'

/-- `normalize_feed_request_path` behind the scheme and the authority. -/
def normalPath (path : List Char) : List Char :=
  if rstripSlash (withSlash path) = [] then ['/'] else rstripSlash (withSlash path)

variable {path configured : List Char}

theorem rstripSlash_slash : rstripSlash ['/'] = [] := rfl

theorem rstripSlash_withSlash (h : IsRequestPath path) : rstripSlash (withSlash path) = rstripSlash path := by
  rcases h with rfl | h
  · rfl
  · rw [withSlash, if_pos h]

theorem samePath_iff (h : IsRequestPath path) :
    SamePath path configured ↔ rstripSlash (withSlash path) = rstripSlash (withSlash configured) := by
  rw [SamePath, rstripSlash_withSlash h]

/-- The comparison of `feed_path_matches`. -/
theorem normalPath_matches_iff (h : IsRequestPath path) :
    (normalPath path = rstripSlash (withSlash configured) ∨ normalPath path = withSlash configured) ↔
      SamePath path configured ∧ ¬ DoubledRoot configured := by
  rw [samePath_iff h, normalPath]
  by_cases hroot : rstripSlash (withSlash path) = []
  · -- the root is not stripped of its slash, a configured path that has only slashes is
    have hne : ['/'] ≠ rstripSlash (withSlash configured) := by
      intro heq
      have hidem := congrArg rstripSlash heq
      rw [rstripSlash_slash, rstripSlash, rstripSlash, List.rdropWhile_idempotent] at hidem
      rw [rstripSlash, ← hidem] at heq
      cases heq
    rw [if_pos hroot, hroot, or_iff_right hne, DoubledRoot, not_and_not_right]
    constructor
    · intro heq
      rw [← heq]
      exact ⟨rfl, fun _ => rfl⟩
    · rintro ⟨hnil, heq⟩
      exact (heq hnil.symm).symm
  · rw [if_neg hroot]
    constructor
    · intro heq
      have hsame : rstripSlash (withSlash path) = rstripSlash (withSlash configured) := by
        rcases heq with heq | heq
        · exact heq
        · rw [← heq, rstripSlash, rstripSlash, List.rdropWhile_idempotent]
      exact ⟨hsame, fun hdoubled => hroot (hsame.trans hdoubled.1)⟩
    · rintro ⟨hsame, -⟩
      exact .inl hsame

/-! ## The two forms -/

/-- A URL whose path is sent as a whole. -/
def fullRequest (authority path query : String) : String := "ws://" ++ authority ++ path ++ "?" ++ query

/-- The path and the query of it. -/
def bareRequest (path query : String) : String := path ++ "?" ++ query

/-- What follows the first slash of a query, up to the next question mark. -/
def slashPart (query : List Char) : List Char := (query.dropWhile (· ≠ '/')).takeWhile (· ≠ '?')

/-- The path that the gateway finds in a URL. -/
def foundPath (path query : List Char) : List Char :=
  if path = [] then if '/' ∈ query then slashPart query else ['/'] else path

/-! ## What the gateway makes of the forms -/

section Forms

variable {authority path query : String}

/-- What ends with a query has a blank at neither end when its first character is none and the query has none. -/
theorem trimmed_append_query {s : String} {front : List Char} (hs : s.toList = front ++ '?' :: query.toList)
    (hfront : ∀ c, front.head? = some c → isSpace c = false) (hquery : ∀ c ∈ query.toList, isSpace c = false) :
    Trimmed s := by
  have hlast : ∀ c ∈ '?' :: query.toList, isSpace c = false := List.forall_mem_cons.mpr ⟨by decide, hquery⟩
  constructor
  · intro c hc
    rw [hs] at hc
    cases front with
    | nil => exact hlast c (List.mem_of_mem_head? hc)
    | cons d front => exact hfront c hc
  · intro c hc
    rw [hs, List.getLast?_append_of_ne_nil _ (List.cons_ne_nil _ _)] at hc
    exact hlast c (List.mem_of_getLast? hc)

theorem toList_bareRequest : (bareRequest path query).toList = path.toList ++ '?' :: query.toList := by
  simp [bareRequest]

theorem toList_fullRequest : (fullRequest authority path query).toList =
    'w' :: 's' :: ':' :: '/' :: '/' :: (authority.toList ++ (path.toList ++ '?' :: query.toList)) := by
  simp [fullRequest]

/-- A path ends at the question mark. -/
theorem takeWhile_query (hmark : '?' ∉ path.toList) :
    (path.toList ++ '?' :: query.toList).takeWhile (· ≠ '?') = path.toList := by
  refine takeWhile_append_cons (fun c hc => ?_) (by decide)
  simpa using fun h : c = '?' => hmark (h ▸ hc)

theorem isPrefixOf_eq_false {scheme s : List Char} {c : Char} (hscheme : scheme.head? = some c)
    (hs : s.head? ≠ some c) : scheme.isPrefixOf s = false := by
  rw [Bool.eq_false_iff, ne_eq, List.isPrefixOf_iff_prefix]
  rintro ⟨rest, rfl⟩
  exact hs (by rw [List.head?_append, hscheme]; rfl)

/-- What is left of a request without its scheme and its authority. -/
def requestPart (raw : List Char) : List Char :=
  if "ws://".toList.isPrefixOf raw || "wss://".toList.isPrefixOf raw then
    let withoutScheme := afterFirst "://".toList raw
    if '/' ∈ withoutScheme then withoutScheme.dropWhile (· ≠ '/') else ['/']
  else raw

theorem normalize_of_trimmed {request : String} (hne : request.toList ≠ []) (htrim : Trimmed request)
    (configuredPath : String) :
    normalizeFeedRequestPath (some request) configuredPath =
      normalPath ((requestPart request.toList).takeWhile (· ≠ '?')) := by
  have hrequest : request ≠ "" := by
    rintro rfl
    exact hne rfl
  unfold normalizeFeedRequestPath
  simp only [if_neg hrequest, strip_eq_self htrim]
  rfl

theorem normalize_bareRequest (hpath : IsRequestPath path.toList) (hmark : '?' ∉ path.toList)
    (hblank : ∀ c ∈ path.toList, isSpace c = false) (hquery : ∀ c ∈ query.toList, isSpace c = false)
    (configuredPath : String) :
    normalizeFeedRequestPath (some (bareRequest path query)) configuredPath = normalPath path.toList := by
  have htrim : Trimmed (bareRequest path query) :=
    trimmed_append_query toList_bareRequest (fun c hc => hblank c (List.mem_of_mem_head? hc)) hquery
  have hhead : (path.toList ++ '?' :: query.toList).head? ≠ some 'w' := by
    rw [List.head?_append]
    rcases hpath with hpath | hpath <;> rw [hpath] <;> simp
  have hne : (bareRequest path query).toList ≠ [] := by simp [toList_bareRequest]
  have hws : "ws://".toList.isPrefixOf (path.toList ++ '?' :: query.toList) = false := isPrefixOf_eq_false rfl hhead
  have hwss : "wss://".toList.isPrefixOf (path.toList ++ '?' :: query.toList) = false := isPrefixOf_eq_false rfl hhead
  have hpart : requestPart (path.toList ++ '?' :: query.toList) = path.toList ++ '?' :: query.toList := by
    rw [requestPart, hws, hwss]
    rfl
  rw [normalize_of_trimmed hne htrim, toList_bareRequest, hpart, takeWhile_query hmark]

/-- The path of a URL, or what its query has from a slash on. -/
theorem takeWhile_requestPart (hauthority : '/' ∉ authority.toList) (hpath : IsRequestPath path.toList)
    (hmark : '?' ∉ path.toList) :
    (requestPart (fullRequest authority path query).toList).takeWhile (· ≠ '?') =
      foundPath path.toList query.toList := by
  have hpart : requestPart (fullRequest authority path query).toList =
      if '/' ∈ authority.toList ++ (path.toList ++ '?' :: query.toList) then
        (authority.toList ++ (path.toList ++ '?' :: query.toList)).dropWhile (· ≠ '/')
      else ['/'] := by
    rw [toList_fullRequest]
    rfl
  have hskip : ∀ c ∈ authority.toList, decide (c ≠ '/') = true := by
    intro c hc
    simpa using fun h : c = '/' => hauthority (h ▸ hc)
  have hbehind : '/' ∈ authority.toList ++ (path.toList ++ '?' :: query.toList) ↔
      '/' ∈ path.toList ++ '?' :: query.toList := by
    rw [List.mem_append, or_iff_right hauthority]
  rw [hpart, if_congr hbehind rfl rfl, List.dropWhile_append_of_pos hskip, foundPath]
  rcases hpath with hpath | hpath
  · have hslash : '/' ∈ '?' :: query.toList ↔ '/' ∈ query.toList := by simp
    rw [hpath, List.nil_append, if_pos rfl, if_congr hslash rfl rfl]
    split_ifs with hquery
    · rfl
    · rfl
  · obtain ⟨rest, hrest⟩ := List.head?_eq_some_iff.mp hpath
    have hdrop : (path.toList ++ '?' :: query.toList).dropWhile (· ≠ '/') = path.toList ++ '?' :: query.toList := by
      rw [hrest]
      rfl
    have hmem : '/' ∈ path.toList ++ '?' :: query.toList := by simp [hrest]
    have hne : path.toList ≠ [] := by simp [hrest]
    rw [if_pos hmem, hdrop, takeWhile_query hmark, if_neg hne]

theorem normalize_fullRequest (hauthority : '/' ∉ authority.toList) (hpath : IsRequestPath path.toList)
    (hmark : '?' ∉ path.toList) (hquery : ∀ c ∈ query.toList, isSpace c = false) (configuredPath : String) :
    normalizeFeedRequestPath (some (fullRequest authority path query)) configuredPath =
      normalPath (foundPath path.toList query.toList) := by
  have hsplit : (fullRequest authority path query).toList =
      ('w' :: 's' :: ':' :: '/' :: '/' :: (authority.toList ++ path.toList)) ++ '?' :: query.toList := by
    rw [toList_fullRequest]
    simp
  have htrim : Trimmed (fullRequest authority path query) := by
    refine trimmed_append_query hsplit (fun c hc => ?_) hquery
    cases hc
    decide
  have hne : (fullRequest authority path query).toList ≠ [] := by simp [toList_fullRequest]
  rw [normalize_of_trimmed hne htrim, takeWhile_requestPart hauthority hpath hmark]

/-! ## The answers -/

theorem feedPathMatches_iff {request configuredPath : String} {path : List Char} (hpath : IsRequestPath path)
    (h : normalizeFeedRequestPath (some request) configuredPath = normalPath path) :
    feedPathMatches (some request) configuredPath = true ↔
      SamePath path configuredPath.toList ∧ ¬ DoubledRoot configuredPath.toList := by
  simp only [feedPathMatches, h, Bool.or_eq_true, beq_iff_eq]
  exact normalPath_matches_iff hpath

theorem isRequestPath_foundPath {path query : List Char} (hpath : IsRequestPath path) :
    IsRequestPath (foundPath path query) := by
  unfold foundPath
  split_ifs with hnil hslash
  · obtain ⟨rest, hrest⟩ := Mql.eq_takeWhile_append hslash
    have hdrop : query.dropWhile (· ≠ '/') = '/' :: rest :=
      List.append_cancel_left (List.takeWhile_append_dropWhile.trans hrest)
    right
    rw [slashPart, hdrop]
    rfl
  · exact .inr rfl
  · exact hpath

/-- Only a slash in the query can be taken for another path. -/
theorem samePath_foundPath_iff {path query : List Char} :
    (SamePath (foundPath path query) configured ↔ SamePath path configured) ↔
      (path = [] → '/' ∈ query → (SamePath (slashPart query) configured ↔ SamePath [] configured)) := by
  unfold foundPath
  split_ifs with hnil hslash
  · subst hnil
    exact ⟨fun h _ _ => h, fun h => h rfl hslash⟩
  · subst hnil
    exact ⟨fun _ _ h => absurd h hslash, fun _ => Iff.rfl⟩
  · exact ⟨fun _ h => absurd h hnil, fun _ => Iff.rfl⟩

/-- Both forms of a request get the same answer, which says whether its path is the configured one. -/
structure FormIndependent (authority path query configuredPath : String) : Prop where
  forms : feedPathMatches (some (fullRequest authority path query)) configuredPath =
    feedPathMatches (some (bareRequest path query)) configuredPath
  answer : feedPathMatches (some (bareRequest path query)) configuredPath = true ↔
    SamePath path.toList configuredPath.toList

/-- The answer does not depend on the form, and is the right one, unless the configured path is a root of several
slashes, or the path of the URL is empty and another one is found in its query. -/
theorem formIndependent_iff (configuredPath : String) (hauthority : '/' ∉ authority.toList)
    (hpath : IsRequestPath path.toList) (hmark : '?' ∉ path.toList) (hblank : ∀ c ∈ path.toList, isSpace c = false)
    (hquery : ∀ c ∈ query.toList, isSpace c = false) :
    FormIndependent authority path query configuredPath ↔
      (DoubledRoot configuredPath.toList → ¬ SamePath path.toList configuredPath.toList) ∧
        (path.toList = [] → '/' ∈ query.toList →
          (SamePath (slashPart query.toList) configuredPath.toList ↔ SamePath [] configuredPath.toList)) := by
  have hbare := feedPathMatches_iff hpath (normalize_bareRequest hpath hmark hblank hquery configuredPath)
  have hfull := feedPathMatches_iff (isRequestPath_foundPath hpath)
    (normalize_fullRequest hauthority hpath hmark hquery configuredPath)
  rw [← samePath_foundPath_iff]
  constructor
  · rintro ⟨hforms, hanswer⟩
    have hroot : DoubledRoot configuredPath.toList → ¬ SamePath path.toList configuredPath.toList :=
      fun hd hs => (hbare.mp (hanswer.mpr hs)).2 hd
    refine ⟨hroot, ?_⟩
    rw [Bool.eq_iff_iff, hfull, hbare] at hforms
    by_cases hd : DoubledRoot configuredPath.toList
    · -- the empty path is the one of a root, so that this path is not empty
      have hne : path.toList ≠ [] := by
        intro hnil
        refine hroot hd ?_
        rw [SamePath, hnil]
        exact hd.1.symm
      rw [foundPath, if_neg hne]
    · rwa [and_iff_left hd, and_iff_left hd] at hforms
  · rintro ⟨hroot, hfound⟩
    have hanswer : feedPathMatches (some (bareRequest path query)) configuredPath = true ↔
        SamePath path.toList configuredPath.toList := by
      rw [hbare]
      exact and_iff_left_of_imp fun hs hd => hroot hd hs
    refine ⟨?_, hanswer⟩
    rw [Bool.eq_iff_iff, hfull, hbare, hfound]

theorem noBlank_of_all {s : String} (h : (s.toList.all fun c => !isSpace c) = true) :
    ∀ c ∈ s.toList, isSpace c = false := by
  simpa using h

/-- A query with a path and a scheme in it. -/
theorem formIndependent_mt5Feed :
    FormIndependent "127.0.0.1:8765" "/mt5-feed/" "from=ws://host/other" "mt5-feed" :=
  (formIndependent_iff "mt5-feed" (by decide) (.inr rfl) (by decide) (noBlank_of_all (by decide))
    (noBlank_of_all (by decide))).mpr
    ⟨fun hd => absurd hd.1 (by decide), fun hnil => absurd hnil (by decide)⟩

/-- The configured path in the query of a URL without a path opens the feed, the same request without the scheme does
not. -/
theorem query_taken_for_path :
    feedPathMatches (some (fullRequest "127.0.0.1:8765" "" "x=/mt5-feed")) "/mt5-feed" = true ∧
      feedPathMatches (some (bareRequest "" "x=/mt5-feed")) "/mt5-feed" = false ∧
      ¬ FormIndependent "127.0.0.1:8765" "" "x=/mt5-feed" "/mt5-feed" := by
  have hfull : feedPathMatches (some (fullRequest "127.0.0.1:8765" "" "x=/mt5-feed")) "/mt5-feed" = true := by
    decide +kernel
  have hbare : feedPathMatches (some (bareRequest "" "x=/mt5-feed")) "/mt5-feed" = false := by decide +kernel
  refine ⟨hfull, hbare, fun h => ?_⟩
  have hforms := h.forms
  rw [hfull, hbare] at hforms
  cases hforms

end Forms

end NautilusMt5
