import Shakedown.Proofs.Load.AppBase
import Shakedown.Proofs.Load.AppCalls

/-!
Requests to an app, and whether they stay with it.

Paths below the address of an app are put together from text that a reply gave. Such a path leads
below every app just when it is tame: it opens neither like an address of its own nor like a path
from the root, and its segments never go up from where they set out. For any other path there is an
app below which it does not lead: it cannot be read there, or the app's requests, and the token they
carry, go elsewhere.
-/

namespace Shakedown

namespace Load

open Url Address

/-- The path as it is read against the base: without slashes in front, and cleaned. -/
def readPath (path : String) : List Char := clean (String.ofList (path.toList.dropWhile (· = '/')))

/-- The path is nothing but a way down. -/
structure Tame (path : String) : Prop where
  no_scheme : splitScheme (readPath path) = none
  no_slash : ∀ c ∈ (readPath path).head?, isSlash .web c = false
  descends : Path.Descends [] (Path.readSegments (isSlash .web) (spanPath (readPath path)).1)

/-- The address is one of the app: the same service answers for it, and its path goes on after the
path of the app and a slash. -/
structure StaysWith (app u : Url) : Prop where
  origin_eq : u.origin = app.origin
  below : ∃ rest, u.path.text.toList = app.path.text.toList.rdropWhile (· = '/') ++ '/' :: rest

/-- What goes only down leads below the directories of the base. -/
lemma resolve_of_descends {cs : List Char} (no_slash : ∀ c ∈ cs.head?, isSlash .web c = false)
    (descends : Path.Descends [] (Path.readSegments (isSlash .web) (spanPath cs).1)) (secure : Bool)
    (a : Authority) (dirs : List String) : ∃ more query fragment, more ≠ [] ∧
      (⟨secure, a, dirs ++ [""], none⟩ : Base).resolve cs =
        .ok ⟨Base.schemeOf secure, some a, .segments (dirs ++ more), query, fragment⟩ := by
  cases cs with
  | nil => exact ⟨[""], none, none, List.cons_ne_nil _ _, rfl⟩
  | cons c rest =>
    cases marked : endsPath c with
    | true =>
      have mark : c = '?' ∨ c = '#' := by simpa [endsPath] using marked
      rcases mark with rfl | rfl
      · exact ⟨[""], _, _, List.cons_ne_nil _ _, rfl⟩
      · exact ⟨[""], _, _, List.cons_ne_nil _ _, rfl⟩
    | false =>
      have segments_ne_nil := readSegments_ne_nil (spanPath (c :: rest)).1
      have directory_eq : (dirs ++ [""]).dropLast = dirs := List.dropLast_concat
      refine ⟨_, (readTail .web (spanPath (c :: rest)).2).1,
        (readTail .web (spanPath (c :: rest)).2).2,
        Path.resolveOnto_ne_nil segments_ne_nil [], ?_⟩
      have path_eq := Path.resolve_of_descends segments_ne_nil descends dirs
      rw [Base.resolve_of_plain (no_slash c rfl) marked, directory_eq]
      simp only [Base.follow, path_eq]
      rfl

/-- A tame path leads below the directories of the base. -/
lemma join_of_tame {path : String} (tame : Tame path) (secure : Bool) (a : Authority)
    (dirs : List String) : ∃ more query fragment, more ≠ [] ∧
      (⟨secure, a, dirs ++ [""], none⟩ : Base).join
        (String.ofList (path.toList.dropWhile (· = '/'))) =
      .ok ⟨Base.schemeOf secure, some a, .segments (dirs ++ more), query, fragment⟩ := by
  rw [Base.join_of_no_scheme tame.no_scheme]
  exact resolve_of_descends tame.no_slash tame.descends secure a dirs

/-- What is below the directories of an app stays with the app. -/
lemma staysWith_of_below {secure : Bool} {a : Authority} {dirs more : List String} {k : Nat}
    {app_query app_fragment query fragment : Option String} (present : more ≠ []) :
    StaysWith
      ⟨Base.schemeOf secure, some a, .segments (dirs ++ List.replicate k ""), app_query,
        app_fragment⟩
      ⟨Base.schemeOf secure, some a, .segments (dirs ++ more), query, fragment⟩ := by
  refine ⟨rfl, ?_⟩
  obtain ⟨s, rest, rfl⟩ := List.exists_cons_of_ne_nil present
  obtain ⟨n, dirs_eq⟩ := exists_replicate '/' (spelled dirs)
  let bare := (spelled dirs).rdropWhile (· = '/')
  let behind := s.toList ++ spelled rest
  have slashes_eq : List.replicate n '/' ++ ['/'] = '/' :: List.replicate n '/' := by
    rw [← List.replicate_succ', List.replicate_succ]
  refine ⟨List.replicate n '/' ++ behind, ?_⟩
  rw [toList_text_segments, toList_text_segments, spelled_append, spelled_append, spelled_replicate,
    rdropWhile_append_replicate]
  calc spelled dirs ++ '/' :: behind
      = bare ++ List.replicate n '/' ++ '/' :: behind := by rw [← dirs_eq]
    _ = bare ++ (List.replicate n '/' ++ ['/']) ++ behind := by
      simp only [List.append_assoc, List.singleton_append]
    _ = bare ++ '/' :: (List.replicate n '/' ++ behind) := by
      rw [slashes_eq, List.append_assoc, List.cons_append]

/-- A tame path leads below every app. -/
lemma stays_of_tame {path : String} (tame : Tame path) {p : String} {app : Url}
    (at_app : AppAt p app) :
    ∃ u, appUrl p path = .ok u ∧ StaysWith app u := by
  obtain ⟨secure, a, dirs, k, rfl, base_eq⟩ := at_app.exists_base
  obtain ⟨more, query, fragment, present, joined⟩ := join_of_tame tame secure a dirs
  refine ⟨⟨Base.schemeOf secure, some a, .segments (dirs ++ more), query, fragment⟩, ?_,
    staysWith_of_below present⟩
  rw [appUrl_eq]
  exact resolve_of_read base_eq joined

/-! An app that a path leaves. -/

/-- The name of a directory. -/
def directory (n : Nat) : String := String.ofList (List.replicate (n + 1) 'd')

/-- The address of that directory on some host. -/
def homeText (secure : Bool) (host : String) (n : Nat) : String :=
  lead secure ++ (host ++ "/" ++ directory n)

def home (secure : Bool) (host : String) (n : Nat) : Url :=
  ⟨Base.schemeOf secure, some { host := .name host }, .segments [directory n], none, none⟩

lemma exists_directory_notMem (segments : List String) : ∃ n, directory n ∉ segments := by
  have bounded : ∃ n, ∀ s ∈ segments, s.toList.length ≤ n := by
    induction segments with
    | nil => exact ⟨0, List.forall_mem_nil _⟩
    | cons s rest ih =>
      obtain ⟨n, short⟩ := ih
      refine ⟨max s.toList.length n, List.forall_mem_cons.mpr ⟨le_max_left _ _, ?_⟩⟩
      exact fun t mem => (short t mem).trans (le_max_right _ _)
  obtain ⟨n, short⟩ := bounded
  refine ⟨n, fun mem => ?_⟩
  have := short (directory n) mem
  rw [directory, String.toList_ofList, List.length_replicate] at this
  omega

variable {secure : Bool} {host : String} {n : Nat}

lemma toList_directory (n : Nat) : (directory n).toList = List.replicate (n + 1) 'd' := by
  rw [directory, String.toList_ofList]

lemma eq_of_mem_directory {c : Char} (mem : c ∈ (directory n).toList) : c = 'd' := by
  rw [toList_directory] at mem
  exact List.eq_of_mem_replicate mem

lemma isUnreserved_of_mem_directory : ∀ c ∈ (directory n).toList, isUnreserved c = true := by
  intro c mem
  rw [eq_of_mem_directory mem]
  decide

lemma directory_ne {s : String} (no_letter : 'd' ∉ s.toList) : directory n ≠ s := by
  rintro rfl
  simp [toList_directory] at no_letter

lemma isSegment_directory : IsSegment (directory n) :=
  isSegment_of_isUnreserved isUnreserved_of_mem_directory

lemma absoluteSegments_directory (n : Nat) :
    absoluteSegments .web ('/' :: (directory n).toList) = [directory n] := by
  have straight : Path.Straight [directory n] := List.forall_mem_singleton.mpr <|
    move_of_isUnreserved isUnreserved_of_mem_directory
      ⟨directory_ne (by decide), directory_ne (by decide)⟩
  have spelled_eq : '/' :: (directory n).toList = spelled [directory n] := by
    rw [spelled, List.flatMap_singleton]
  rw [spelled_eq, absoluteSegments_spelled (List.cons_ne_nil _ _)
    (List.forall_mem_singleton.mpr isSegment_directory), Path.resolve_of_straight straight,
    List.nil_append]

lemma toList_homeRest (host : String) (n : Nat) :
    (host ++ "/" ++ directory n).toList = host.toList ++ '/' :: (directory n).toList := by
  rw [String.toList_append, String.toList_append, List.append_assoc]
  rfl

lemma endsSolid_homeText (secure : Bool) (host : String) (n : Nat) :
    EndsSolid (homeText secure host n).toList := by
  have split : (homeText secure host n).toList =
      (lead secure ++ (host ++ "/")).toList ++ (directory n).toList := by
    simp only [homeText, String.toList_append, List.append_assoc]
  have present : (directory n).toList ≠ [] := by
    rw [toList_directory]
    exact List.cons_ne_nil _ _
  rw [split, EndsSolid.append _ present]
  refine EndsSolid.of_forall fun c mem => ?_
  rw [eq_of_mem_directory mem]
  decide

lemma read_home (known : host = "a" ∨ host = "b") :
    Url.read (homeText secure host n) = .ok (home secure host n) := by
  have kind : SchemeKind.of (Base.schemeOf secure) = .web := by cases secure <;> decide
  have within : WithinAuthority host.toList := by
    rcases known with rfl | rfl <;> exact List.forall_mem_singleton.mpr (by decide)
  have read_host : readAuthority (Base.schemeOf secure) (host.toList ++ []) =
      .ok ({ host := .name host }, []) := by
    rcases known with rfl | rfl <;> cases secure <;> decide +kernel
  have rest_eq : ((host ++ "/" ++ directory n).toList.filter stays).dropWhile (isSlash .web) =
      host.toList ++ '/' :: (directory n).toList := by
    have all_stay : ∀ c ∈ host.toList ++ '/' :: (directory n).toList, stays c = true := by
      refine List.forall_mem_append.mpr ⟨?_, List.forall_mem_cons.mpr ⟨by decide, fun c mem => ?_⟩⟩
      · rcases known with rfl | rfl <;> exact List.forall_mem_singleton.mpr (by decide)
      · rw [eq_of_mem_directory mem]
        decide
    rw [toList_homeRest, List.filter_eq_self.mpr all_stay]
    rcases known with rfl | rfl <;> rfl
  have path_ends : EndsAuthority ('/' :: (directory n).toList) := fun c mem => by
    obtain rfl := Option.some.inj mem
    decide
  have span_eq : spanPath ('/' :: (directory n).toList) = ('/' :: (directory n).toList, []) := by
    refine spanPath_of_whole (List.forall_mem_cons.mpr ⟨by decide, fun c mem => ?_⟩)
    rw [eq_of_mem_directory mem]
    decide
  obtain ⟨authority, read_authority⟩ := readAuthority_append kind within
  have authority_eq : authority = .ok { host := .name host } := by
    rw [read_authority [] nofun] at read_host
    cases authority with
    | error problem => cases read_host
    | ok a => exact congrArg Except.ok (congrArg Prod.fst (Except.ok.inj read_host))
  rw [authority_eq] at read_authority
  rw [homeText, read_of_lead_of_endsSolid (spellsLead_lead secure)
    (endsSolid_homeText secure host n), rest_eq,
    readHierarchical_of_authority kind (read_authority _ path_ends), span_eq,
    absoluteSegments_directory]
  rfl

lemma appAt_home (secure : Bool) (n : Nat) (known : host = "a" ∨ host = "b") :
    AppAt (homeText secure host n) (home secure host n) where
  read_eq := read_home known
  opens := ⟨secure, lead secure, _, spellsLead_lead secure, rfl⟩
  solid := endsSolid_homeText secure host n
  no_query := rfl
  no_fragment := rfl

lemma base_of_home (known : host = "a" ∨ host = "b") :
    Address.base (bare (homeText secure host n) ++ "/") =
      .ok ⟨secure, { host := .name host }, [directory n, ""], none⟩ := by
  have at_home : AppAt (homeText secure host n) (home secure host n) := appAt_home secure n known
  obtain ⟨secure', a, dirs, k, home_eq, base_eq⟩ := at_home.exists_base
  obtain ⟨scheme_eq, authority_eq, path_eq⟩ :
      Base.schemeOf secure = Base.schemeOf secure' ∧ { host := .name host } = a ∧
        [directory n] = dirs ++ List.replicate k "" := by
    simpa [home] using home_eq
  obtain rfl : secure = secure' := by
    revert scheme_eq
    cases secure <;> cases secure' <;> decide
  obtain rfl : k = 0 := by
    by_contra more
    have empty : "" ∈ [directory n] := by
      rw [path_eq]
      exact List.mem_append_right _ (List.mem_replicate.mpr ⟨more, rfl⟩)
    exact directory_ne (by decide) (List.mem_singleton.mp empty).symm
  obtain rfl : dirs = [directory n] := by
    rw [path_eq, List.replicate_zero, List.append_nil]
  rw [base_eq, ← authority_eq]
  rfl

/-- What becomes of a path below such an app. -/
lemma appUrl_home (known : host = "a" ∨ host = "b") (path : String) {u : Url} :
    appUrl (homeText secure host n) path = .ok u ↔
      (⟨secure, { host := .name host }, [directory n, ""], none⟩ : Base).join
        (String.ofList (path.toList.dropWhile (· = '/'))) = .ok u := by
  rw [appUrl_eq]
  exact Address.resolve_eq_ok_iff (base_of_home known)

/-- What stays with the app has its directory in the path. -/
lemma mem_of_staysWith {u : Url} {list : List String} (path_eq : u.path = .segments list)
    (segments : ∀ s ∈ list, IsSegment s) (stays : StaysWith (home secure host n) u) :
    directory n ∈ list := by
  obtain ⟨rest, below⟩ := stays.below
  have home_text : (home secure host n).path.text.toList = '/' :: (directory n).toList := by
    rw [home, toList_text_segments, spelled, List.flatMap_singleton]
  have whole :
      ('/' :: (directory n).toList).rdropWhile (· = '/') = '/' :: (directory n).toList := by
    rw [toList_directory, List.replicate_succ', ← List.cons_append]
    exact List.rdropWhile_concat_neg _ _ _ (by decide)
  rw [path_eq, toList_text_segments, home_text, whole, List.cons_append] at below
  have pieces := splitBy_of_spelled below.symm (IsSegment.slashless segments)
  have whole_directory : ∀ c ∈ (directory n).toList, isSlash .web c = false := fun c mem =>
    (isSegment_directory c mem).2
  rw [Text.splitBy_append_cons (by decide), Text.splitBy_of_forall_neg whole_directory] at pieces
  have mem : (directory n).toList ∈ list.map String.toList := by
    rw [← pieces]
    exact List.mem_cons_self
  obtain ⟨s, in_list, same⟩ := List.mem_map.mp mem
  exact String.toList_inj.mp same ▸ in_list

/-- An address of its own has not the scheme of every app. -/
lemma exists_left_of_scheme {path scheme : String} {rest : List Char}
    (opens : splitScheme (readPath path) = some (scheme, rest)) : ∃ p app, AppAt p app ∧
      ∀ u, appUrl p path = .ok u → ¬ StaysWith app u := by
  -- a reference may name the scheme of its base and yet be followed from there
  obtain ⟨secure, other⟩ : ∃ secure, scheme ≠ Base.schemeOf secure := by
    by_cases https : scheme = "https"
    · exact ⟨false, by rw [https]; decide⟩
    · exact ⟨true, https⟩
  refine ⟨_, _, appAt_home secure 0 (.inl rfl), fun u found stays => ?_⟩
  rw [readPath] at opens
  rw [appUrl_home (.inl rfl), Base.join, opens] at found
  have no_base : ¬ (scheme = Base.schemeOf secure && !Base.opensAuthority rest) = true := by
    simp [other]
  have read : ofScheme scheme rest = .ok u := (if_neg no_base).symm.trans found
  have same_scheme : u.scheme = Base.schemeOf secure := congrArg Prod.fst stays.origin_eq
  exact other ((scheme_of_ofScheme read).symm.trans same_scheme)

/-- An address of another service is not one of every app. -/
lemma exists_other_home (u : Url) : ∃ host, (host = "a" ∨ host = "b") ∧
    u.origin ≠ (home false host 0).origin := by
  by_cases same : u.origin = (home false "a" 0).origin
  · refine ⟨"b", .inr rfl, ?_⟩
    rw [same]
    decide
  · exact ⟨"a", .inl rfl, same⟩

lemma resolve_of_slash {c : Char} (slash : isSlash .web c = true) (b : Base) (rest : List Char) :
    b.resolve (c :: rest) = if Base.opensAuthority (c :: rest) then
      readHierarchical b.scheme (Base.dropSlashes (c :: rest)) else .ok (b.follow [] rest) := by
  have either : c = '/' ∨ c = '\\' := by simpa [isSlash] using slash
  rcases either with rfl | rfl <;> rfl

/-- What opens like an authority, or at the root, is not below every app. -/
lemma exists_left_of_slash {path : String} {c : Char} {rest : List Char}
    (no_scheme : splitScheme (readPath path) = none) (opens : readPath path = c :: rest)
    (slash : isSlash .web c = true) : ∃ p app, AppAt p app ∧
      ∀ u, appUrl p path = .ok u → ¬ StaysWith app u := by
  have joined : ∀ b : Base, b.join (String.ofList (path.toList.dropWhile (· = '/'))) =
      if Base.opensAuthority (c :: rest) then
        readHierarchical b.scheme (Base.dropSlashes (c :: rest))
      else .ok (b.follow [] rest) := fun b => by
    rw [Base.join_of_no_scheme no_scheme, ← resolve_of_slash slash, ← opens, readPath]
  cases authority : Base.opensAuthority (c :: rest) with
  | true =>
    -- the service that it names is the same whatever the app
    rw [authority] at joined
    cases read : readHierarchical "http" (Base.dropSlashes (c :: rest)) with
    | error problem =>
      refine ⟨_, _, appAt_home false 0 (.inl rfl), fun u found => ?_⟩
      rw [appUrl_home (.inl rfl), joined] at found
      cases read.symm.trans found
    | ok v =>
      obtain ⟨host, known, other⟩ := exists_other_home v
      refine ⟨_, _, appAt_home false 0 known, fun u found stays => ?_⟩
      rw [appUrl_home known, joined] at found
      obtain rfl := Except.ok.inj (read.symm.trans found)
      exact other stays.origin_eq
  | false =>
    -- it is followed from the root, and into no directory but those it names
    rw [authority] at joined
    obtain ⟨n, unknown⟩ := exists_directory_notMem
      ("" :: Path.readSegments (isSlash .web) (spanPath rest).1)
    refine ⟨_, _, appAt_home false n (.inl rfl), fun u found stays => ?_⟩
    rw [appUrl_home (.inl rfl), joined] at found
    obtain rfl := Except.ok.inj found
    have mem := mem_of_staysWith rfl (isSegment_of_mem_resolve (List.forall_mem_nil _)
      fun _ mem => isSegment_of_mem_readSegments mem) stays
    rcases Path.mem_resolveOnto mem with empty | read | nowhere
    · exact unknown (empty ▸ List.mem_cons_self)
    · exact unknown (List.mem_cons_of_mem "" read)
    · cases nowhere

/-- What goes up has segments, so it is followed from the base's directory. -/
lemma resolve_of_not_descends {cs : List Char} (no_slash : ∀ c ∈ cs.head?, isSlash .web c = false)
    (leaves : ¬ Path.Descends [] (Path.readSegments (isSlash .web) (spanPath cs).1)) (b : Base) :
    b.resolve cs = .ok (b.follow b.segments.dropLast cs) := by
  cases cs with
  | nil => exact absurd (by decide) leaves
  | cons c rest =>
    cases marked : endsPath c with
    | true =>
      have nothing : (spanPath (c :: rest)).1 = [] := by
        rw [spanPath_fst, List.takeWhile_cons_of_neg (by simp [marked])]
      rw [nothing] at leaves
      exact absurd (by decide) leaves
    | false => exact Base.resolve_of_plain (no_slash c rfl) marked b rest

/-- Followed from a directory that it does not know, it leaves that directory. -/
lemma not_staysWith_follow {cs : List Char} {b : Base}
    (leaves : ¬ Path.Descends [] (Path.readSegments (isSlash .web) (spanPath cs).1))
    (unknown : directory n ∉ Path.readSegments (isSlash .web) (spanPath cs).1) :
    ¬ StaysWith (home secure host n) (b.follow [directory n] cs) := by
  intro stays
  have named : directory n ≠ "" := directory_ne (by decide)
  have no_drive : Path.isDrive (directory n) = false := by
    unfold Path.isDrive
    split
    · next letter mark drive =>
      obtain rfl : mark = 'd' := eq_of_mem_directory (n := n) (by rw [drive]; simp)
      simp
    · rfl
  have mem := mem_of_staysWith rfl (isSegment_of_mem_resolve
    (List.forall_mem_singleton.mpr isSegment_directory)
    fun _ mem => isSegment_of_mem_readSegments mem) stays
  have left : directory n ∉ Path.resolveOnto ([] ++ [directory n]) _ :=
    Path.notMem_resolveOnto named no_drive unknown List.not_mem_nil leaves
  exact left mem

/-- What goes up from where it set out leaves a directory. -/
lemma exists_left_of_up {path : String} (no_scheme : splitScheme (readPath path) = none)
    (no_slash : ∀ c ∈ (readPath path).head?, isSlash .web c = false)
    (leaves : ¬ Path.Descends [] (Path.readSegments (isSlash .web) (spanPath (readPath path)).1)) :
    ∃ p app, AppAt p app ∧ ∀ u, appUrl p path = .ok u → ¬ StaysWith app u := by
  obtain ⟨n, unknown⟩ := exists_directory_notMem
    (Path.readSegments (isSlash .web) (spanPath (readPath path)).1)
  have read_eq : clean (String.ofList (path.toList.dropWhile (· = '/'))) = readPath path := rfl
  refine ⟨_, _, appAt_home false n (.inl rfl), fun u found => ?_⟩
  rw [appUrl_home (.inl rfl), Base.join_of_no_scheme no_scheme, read_eq,
    resolve_of_not_descends no_slash leaves] at found
  obtain rfl := Except.ok.inj found
  exact not_staysWith_follow leaves unknown

/-- A path that is not tame leads away from some app, if it leads anywhere. -/
lemma exists_left_of_not_tame {path : String} (wild : ¬ Tame path) : ∃ p app, AppAt p app ∧
    ∀ u, appUrl p path = .ok u → ¬ StaysWith app u := by
  cases split : splitScheme (readPath path) with
  | some parts => exact exists_left_of_scheme split
  | none =>
    by_cases no_slash : ∀ c ∈ (readPath path).head?, isSlash .web c = false
    · exact exists_left_of_up split no_slash fun descends => wild ⟨split, no_slash, descends⟩
    · obtain ⟨c, at_head, slash⟩ : ∃ c ∈ (readPath path).head?, isSlash .web c = true := by
        simpa using no_slash
      obtain ⟨rest, opens⟩ := List.head?_eq_some_iff.mp at_head
      exact exists_left_of_slash split opens slash

/-! Requests. -/

lemma staysWith_congr {app u v : Url} (origin_eq : u.origin = v.origin)
    (path_eq : u.path = v.path) : StaysWith app u ↔ StaysWith app v := by
  constructor
  · rintro ⟨same_origin, below⟩
    exact ⟨origin_eq ▸ same_origin, path_eq ▸ below⟩
  · rintro ⟨same_origin, below⟩
    exact ⟨origin_eq ▸ same_origin, path_eq ▸ below⟩

/-- The name in an address does not matter to whether it is one of the app. -/
lemma staysWith_askedUrl_iff {app : Url} (u : Url) :
    StaysWith app (Http.askedUrl u) ↔ StaysWith app u := by
  unfold Http.askedUrl Http.Request.separateUser
  split
  · refine staysWith_congr ?_ rfl
    cases named : u.authority <;> simp [Url.origin, Http.withoutUser, named]
  · rfl

/-- The path of a call leads below every app just when it is tame. The requests that the call sends
carry the token, and stay with an app just when its address of that path does. -/
theorem token_stays_with_app_iff (call : AppCall) :
    (Tame call.path ↔ ∀ p app, AppAt p app → ∃ u, appUrl p call.path = .ok u ∧ StaysWith app u) ∧
    ∀ (c : Client) (p : String) (t : Trace), ∀ r ∈ (call.after c p t).requests, r ∉ t.requests →
      r.bearer = some c.token ∧
        ∃ u, appUrl p call.path = .ok u ∧ ∀ app, StaysWith app r.url ↔ StaysWith app u := by
  refine ⟨⟨fun tame p app at_app => stays_of_tame tame at_app, fun stays => ?_⟩,
    fun c p t r sent fresh => ?_⟩
  · by_contra wild
    obtain ⟨p, app, at_app, leaves⟩ := exists_left_of_not_tame wild
    obtain ⟨u, found, stays⟩ := stays p app at_app
    exact leaves u found stays
  · rw [AppCall.requests_after, List.mem_append, Option.mem_toList] at sent
    obtain ⟨bearer_eq, u, found, url_eq, _⟩ := AppCall.of_request? (sent.resolve_left fresh)
    exact ⟨bearer_eq, u, found, fun app => by rw [url_eq, staysWith_askedUrl_iff]⟩

private def client : Client :=
  ⟨⟨.down, fun _ _ => .missing, fun _ => ⟨0⟩, fun _ _ => Fin.last 25⟩, .ofBee "test", "s3cret"⟩

private def visit : AppCall :=
  .write "http://evil.test" { recordType := "visit", id := "1", ascending := Named.ascending_nil }

private def wds : Url :=
  ⟨"http", some { host := .name "app.test" }, .segments ["wds"], none, none⟩

lemma appAt_wds : AppAt "http://app.test/wds" wds where
  read_eq := rfl
  opens := ⟨false, "http://", "app.test/wds", by decide, by decide⟩
  solid := by decide
  no_query := rfl
  no_fragment := rfl

/-- What the call sends to the host of that name. -/
private def visitSent : Http.Request where
  method := .put
  url := ⟨"http", some { host := .name "evil.test" }, .segments ["records", "v0.2", "visit", "1"],
    none, none⟩
  bearer := some "s3cret"
  body := .json "\x7b\"attributes\":\x7b\x7d\x7d"

/-- A workspace that is named like an address of its own gets the token sent there. -/
theorem token_leaves_app : AppAt "http://app.test/wds" wds ∧
    ∃ r ∈ (visit.after client "http://app.test/wds" {}).requests,
      r.url.text = "http://evil.test/records/v0.2/visit/1" ∧ r.bearer = some "s3cret" ∧
        ¬ StaysWith wds r.url := by
  have sends : visit.request? client "http://app.test/wds" {} = some visitSent := by decide +kernel
  refine ⟨appAt_wds, visitSent, ?_, rfl, rfl, ?_⟩
  · rw [AppCall.requests_after, sends]
    exact List.mem_singleton_self visitSent
  · intro stays
    exact absurd stays.origin_eq (by decide)

end Load
end Shakedown
