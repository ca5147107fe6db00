import Shakedown.Proofs.Address.Names
import Shakedown.Proofs.Url.AuthorityText
import Shakedown.Proofs.Url.Reading
import Shakedown.Proofs.Url.Segments

/-!
Web addresses in the form in which they are written.

The text of such an address is its lead, the text of its authority and its segments, and it is read
the way it was written. Slashes at its end are empty segments; without them, and with one slash put
back, it is the base of everything below the address.
-/

namespace Shakedown

namespace Url

/-- A web address without query and fragment whose text is read as the address itself. -/
structure Canonical (u : Url) : Prop where
  read_text : Url.read u.text = .ok u
  web : u.isWeb = true
  no_query : u.query = none
  no_fragment : u.fragment = none

end Url

namespace Address

open Url

/-- The text of a web address with an authority and without query and fragment. -/
lemma text_of_segments (secure : Bool) (a : Authority) (list : List String) :
    (⟨Base.schemeOf secure, some a, .segments list, none, none⟩ : Url).text =
      lead secure ++ (a.text ++ Path.segmentsText list) := by
  have lead_eq : lead secure = Base.schemeOf secure ++ ":" ++ "//" := by cases secure <;> decide
  have no_tail : tailText none none = "" := rfl
  simp only [Url.text, authorityText, Path.text, lead_eq, no_tail, String.append_empty,
    String.append_assoc]

variable {secure : Bool} {a : Authority} {list : List String}

lemma toList_told (a : Authority) (list : List String) :
    (a.text ++ Path.segmentsText list).toList = a.text.toList ++ spelled list := by
  rw [String.toList_append, toList_segmentsText]

lemma endsAuthority_spelled (list : List String) : EndsAuthority (spelled list) := by
  cases list with
  | nil => exact nofun
  | cons s rest =>
    intro c mem
    obtain rfl := Option.some.inj mem
    decide

lemma within_text (standing : a.Standing) : WithinAuthority a.text.toList :=
  fun c mem => (standsInAuthority_iff.mp (standing.isAuthorityText.2 c mem)).1

/-- Nothing is dropped from an authority and segments. -/
lemma solid_of_mem_told (standing : a.Standing) (segments : ∀ s ∈ list, IsSegment s) :
    ∀ c ∈ a.text.toList ++ spelled list, isControlOrBlank c = false := by
  intro c mem
  rcases List.mem_append.mp mem with in_text | in_path
  · exact (standsInAuthority_iff.mp (standing.isAuthorityText.2 c in_text)).2
  · exact (solid_of_mem_spelled segments in_path).1

lemma filter_told (standing : a.Standing) (segments : ∀ s ∈ list, IsSegment s) :
    (a.text.toList ++ spelled list).filter stays = a.text.toList ++ spelled list :=
  List.filter_eq_self.mpr fun c mem => stays_of_solid (solid_of_mem_told standing segments c mem)

lemma slashless_text (standing : a.Standing) : ∀ c ∈ a.text.toList, isSlash .web c = false := by
  intro c mem
  have within := within_text standing c mem
  rw [endsAuthority, Bool.or_eq_false_iff, Bool.or_eq_false_iff] at within
  exact within.1.1

lemma dropWhile_told (standing : a.Standing) (rest : List Char) :
    (a.text.toList ++ rest).dropWhile (isSlash .web) = a.text.toList ++ rest := by
  obtain ⟨c, tail, text_eq⟩ := List.exists_cons_of_ne_nil standing.isAuthorityText.1
  have no_slash := slashless_text standing c (by simp [text_eq])
  rw [text_eq, List.cons_append, List.dropWhile_cons_of_neg (by simp [no_slash])]

/-- An authority and segments are read from behind their lead. -/
lemma read_told (standing : a.Standing) (segments : ∀ s ∈ list, IsSegment s) :
    Url.read (lead secure ++ (a.text ++ Path.segmentsText list)) =
      readHierarchical (Base.schemeOf secure) (a.text.toList ++ spelled list) := by
  have solid : EndsSolid (lead secure ++ (a.text ++ Path.segmentsText list)).toList := by
    rw [String.toList_append, toList_told, EndsSolid.append]
    · exact EndsSolid.of_forall (solid_of_mem_told standing segments)
    · exact List.append_ne_nil_of_left_ne_nil standing.isAuthorityText.1 _
  rw [read_of_lead_of_endsSolid (spellsLead_lead secure) solid, toList_told,
    filter_told standing segments, dropWhile_told standing]

/-- What a canonical address is made of: an authority and segments that are read as they are
written. -/
structure MadeOf (u : Url) (secure : Bool) (a : Authority) (list : List String) : Prop where
  url_eq : u = ⟨Base.schemeOf secure, some a, .segments list, none, none⟩
  standing : a.Standing
  segments : ∀ s ∈ list, IsSegment s
  straight : Path.Straight list
  read : ∀ rest, EndsAuthority rest →
    readAuthority (Base.schemeOf secure) (a.text.toList ++ rest) = .ok (a, rest)

lemma exists_madeOf {u : Url} (canonical : Canonical u) :
    ∃ secure a list, MadeOf u secure a list := by
  obtain ⟨secure, a, path, scheme_eq, ⟨cs, rest, found⟩, authority_eq, path_eq⟩ :=
    exists_authority_of_read canonical.read_text canonical.web
  have kind : SchemeKind.of (Base.schemeOf secure) = .web := by cases secure <;> decide
  let list := absoluteSegments .web path
  have standing : a.Standing := standing_of_readAuthority kind (scheme_eq ▸ found)
  have segments : ∀ s ∈ list, IsSegment s := isSegment_of_mem_absoluteSegments
  have url_eq : u = ⟨Base.schemeOf secure, some a, .segments list, none, none⟩ := by
    calc u = ⟨u.scheme, u.authority, u.path, u.query, u.fragment⟩ := rfl
      _ = _ := by
        rw [scheme_eq, authority_eq, path_eq, canonical.no_query, canonical.no_fragment]
  have read := canonical.read_text
  rw [url_eq, text_of_segments, read_told standing segments] at read
  obtain ⟨authority, read_authority⟩ := readAuthority_append kind (within_text standing)
  have read_here := read_authority _ (endsAuthority_spelled list)
  -- the text is read as some authority, and reading it as the address itself leaves only one
  cases authority with
  | error problem =>
    rw [readHierarchical_of_no_authority read_here] at read
    cases read
  | ok a' =>
    have span_eq : spanPath (spelled list) = (spelled list, []) :=
      spanPath_of_whole fun c mem => (solid_of_mem_spelled segments mem).2
    rw [readHierarchical_of_authority kind read_here, span_eq,
      absoluteSegments_spelled (absoluteSegments_ne_nil path) segments] at read
    simp only [Except.ok.injEq, Url.mk.injEq, true_and, Option.some.injEq,
      Path.segments.injEq] at read
    obtain ⟨rfl, same, _⟩ := read
    exact ⟨secure, a', list, url_eq, standing, segments, straight_of_resolve_eq same,
      read_authority⟩

/-! Without the slashes at the end. -/

/-- The segments of an address but for the empty ones at its end. -/
def directories (list : List String) : List String := list.rdropWhile (· = "")

lemma mem_of_mem_directories {s : String} (mem : s ∈ directories list) : s ∈ list :=
  (List.rdropWhile_prefix _ _).subset mem

lemma spelled_directories (list : List String) :
    ∃ n, spelled list = spelled (directories list) ++ List.replicate n '/' := by
  obtain ⟨n, list_eq⟩ := exists_replicate "" list
  refine ⟨n, ?_⟩
  conv_lhs => rw [list_eq]
  rw [spelled_append, spelled_replicate, directories]

/-- No slash stands at the end of an authority and its directories. -/
lemma rdropWhile_told (standing : a.Standing) (segments : ∀ s ∈ list, IsSegment s)
    (front : List Char) :
    (front ++ (a.text.toList ++ spelled (directories list))).rdropWhile (· = '/') =
      front ++ (a.text.toList ++ spelled (directories list)) := by
  rcases List.eq_nil_or_concat (directories list) with root | ⟨dirs, last, dirs_eq⟩
  · rw [root, show spelled [] = [] from rfl, List.append_nil]
    exact rdropWhile_append_of_slashless standing.isAuthorityText.1 (slashless_text standing) front
  · have filled : last.toList ≠ [] := by
      intro empty
      have present : directories list ≠ [] := by simp [dirs_eq]
      have last_eq : (directories list).getLast present = last := by simp [dirs_eq]
      have no_more := List.rdropWhile_last_not (· = "") list present
      exact no_more (decide_eq_true (last_eq.trans (String.toList_inj.mp empty)))
    have last_segment : IsSegment last :=
      segments last (mem_of_mem_directories (by simp [dirs_eq]))
    have split : front ++ (a.text.toList ++ spelled (directories list)) =
        front ++ (a.text.toList ++ (spelled dirs ++ ['/'])) ++ last.toList := by
      simp [dirs_eq, spelled]
    rw [split]
    exact rdropWhile_append_of_slashless filled (fun c mem => (last_segment c mem).2) _

lemma bare_text (standing : a.Standing) (segments : ∀ s ∈ list, IsSegment s) :
    bare (⟨Base.schemeOf secure, some a, .segments list, none, none⟩ : Url).text =
      lead secure ++ (a.text ++ Path.segmentsText (directories list)) := by
  obtain ⟨n, spelled_eq⟩ := spelled_directories list
  rw [← String.toList_inj, toList_bare, text_of_segments, String.toList_append, toList_told,
    String.toList_append, toList_told, spelled_eq, ← List.append_assoc, ← List.append_assoc,
    rdropWhile_append_replicate, List.append_assoc, rdropWhile_told standing segments]

/-- With one slash put back, the text is the base of what is below the address. -/
lemma base_of_bare_text {u : Url} (made : MadeOf u secure a list) :
    base (bare u.text ++ "/") = .ok ⟨secure, a, directories list ++ [""], none⟩ := by
  let dirs := directories list ++ [""]
  have segments : ∀ s ∈ dirs, IsSegment s := List.forall_mem_append.mpr
    ⟨fun s mem => made.segments s (mem_of_mem_directories mem),
      List.forall_mem_singleton.mpr isSegment_empty⟩
  have straight : Path.Straight dirs := List.forall_mem_append.mpr
    ⟨fun s mem => made.straight s (mem_of_mem_directories mem), by decide⟩
  have told_eq : (a.text ++ Path.segmentsText (directories list)).toList.filter stays ++ ['/'] =
      a.text.toList ++ spelled dirs := by
    rw [toList_told, filter_told made.standing fun s mem =>
      made.segments s (mem_of_mem_directories mem), List.append_assoc, spelled_append]
    rfl
  have span_eq : spanPath (spelled dirs) = (spelled dirs, []) :=
    spanPath_of_whole fun c mem => (solid_of_mem_spelled segments mem).2
  rw [made.url_eq, bare_text made.standing made.segments,
    base_of_lead_slash (spellsLead_lead secure), told_eq, dropWhile_told made.standing,
    Base.read_of_authority (made.read _ (endsAuthority_spelled dirs)), span_eq,
    absoluteSegments_spelled (by simp [dirs]) segments, Path.resolve_of_straight straight]
  rfl

end Address
end Shakedown
