import Shakedown.Proofs.Address.Canonical
import Shakedown.Proofs.Load.AppBase
import Shakedown.Proofs.Load.AppCalls

/-!
The addresses that calls to an app ask for.

If an app is given by the text of its address, slashes at the end or not, and all identifiers are
plain, a call asks for that text with the path behind it. So a record is written to and read from
one address, and different records have different ones. A name in the address of the app is no part
of what is asked for.
-/

namespace Shakedown

namespace Url

/-- Segments that are written alike are alike. -/
lemma spelled_inj {front back : List String} (front_segments : ∀ s ∈ front, IsSegment s)
    (back_segments : ∀ s ∈ back, IsSegment s) : spelled front = spelled back ↔ front = back := by
  refine ⟨fun same => ?_, congrArg spelled⟩
  -- cutting at slashes tells segments apart, but there is nothing to cut when there are none
  by_cases present : front = []
  · rw [present] at same ⊢
    cases back with
    | nil => rfl
    | cons s rest => cases same
  · obtain ⟨cs, front_eq⟩ := exists_spelled present
    have pieces := splitBy_of_spelled front_eq (IsSegment.slashless front_segments)
    have pieces' := splitBy_of_spelled (front_eq.trans same) (IsSegment.slashless back_segments)
    have injective : Function.Injective String.toList := fun _ _ => String.toList_inj.mp
    exact List.map_injective_iff.mpr injective (pieces.symm.trans pieces')

/-- Segments without dots are followed one after the other. -/
lemma Base.follow_of_spelled {front : List Char} {names : List String}
    (front_eq : '/' :: front = spelled names) (segments : ∀ s ∈ names, IsSegment s)
    (straight : Path.Straight names) (b : Base) (start : List String) :
    b.follow start front = b.url (start ++ names) none none := by
  have span_eq : spanPath front = (front, []) := by
    refine spanPath_of_whole fun c mem => (solid_of_mem_spelled segments ?_).2
    rw [← front_eq]
    exact List.mem_cons_of_mem '/' mem
  simp only [Base.follow, span_eq, readSegments_of_spelled front_eq segments,
    Path.resolve_of_straight straight]
  rfl

end Url

namespace Http

open Url

/-- An authority without what it says about who asks. -/
def anonymous (a : Authority) : Authority := { a with username := "", password := none }

lemma text_eq_anonymous (a : Authority) : a.text = a.userText ++ (anonymous a).text := by
  have nobody : (anonymous a).userText = "" := rfl
  rw [Authority.text, Authority.text, nobody, String.empty_append]
  exact String.append_assoc

/-- An authority as it is asked: without a name in it that can be read. -/
def askedAuthority (a : Authority) : Authority :=
  if (userOf a).isSome then anonymous a else a

lemma askedUrl_eq (scheme : String) (a : Authority) (path : Path) (query fragment : Option String) :
    askedUrl ⟨scheme, some a, path, query, fragment⟩ =
      ⟨scheme, some (askedAuthority a), path, query, fragment⟩ := by
  unfold askedUrl Request.separateUser askedAuthority
  cases named : userOf a with
  | none => simp [named]
  | some user => simp [named, withoutUser, anonymous]

lemma standing_askedAuthority {a : Authority} (standing : a.Standing) :
    (askedAuthority a).Standing := by
  unfold askedAuthority
  split
  · exact standing.nameless
  · exact standing

end Http

namespace Load

open Url Address

/-- An identifier that says nothing but itself in a path. -/
structure PlainId (s : String) : Prop where
  filled : s ≠ ""
  unreserved : ∀ c ∈ s.toList, isUnreserved c = true
  no_dots : s ≠ "." ∧ s ≠ ".."

instance (s : String) : Decidable (PlainId s) :=
  decidable_of_iff (s ≠ "" ∧ (∀ c ∈ s.toList, isUnreserved c = true) ∧ s ≠ "." ∧ s ≠ "..")
    ⟨fun ⟨filled, unreserved, no_dots⟩ => ⟨filled, unreserved, no_dots⟩,
      fun ⟨filled, unreserved, no_dots⟩ => ⟨filled, unreserved, no_dots⟩⟩

/-- The text is the one of an app's address, perhaps with slashes added at its end. -/
structure GivenBy (p : String) (app : Url) : Prop where
  canonical : Canonical app
  slashes : ∃ n, p = app.text ++ String.ofList (List.replicate n '/')

lemma GivenBy.bare_eq {p : String} {app : Url} (given : GivenBy p app) :
    bare p = bare app.text := by
  obtain ⟨n, rfl⟩ := given.slashes
  rw [← String.toList_inj, toList_bare, toList_bare, String.toList_append, String.toList_ofList,
    rdropWhile_append_replicate]

namespace AppCall

/-- The identifiers on the path of the call. -/
def ids : AppCall → List String
  | .upload workspaceId recordType _ => [workspaceId, recordType]
  | .write workspaceId record => [workspaceId, record.recordType, record.id]
  | .read workspaceId record => [workspaceId, record.recordType, record.id]
  | .submit _ => []

/-- The names on the path, with those that are the same for all calls of a kind. -/
def names : AppCall → List String
  | .upload workspaceId recordType _ => [workspaceId, "tsv", recordsVersion, recordType]
  | .write workspaceId record =>
    [workspaceId, "records", recordsVersion, record.recordType, record.id]
  | .read workspaceId record =>
    [workspaceId, "records", recordsVersion, record.recordType, record.id]
  | .submit _ => ["api", "batch", "v1", "run_sets"]

/-- What tells the record that the call is about from others, if it is about one. -/
def record? : AppCall → Option (String × String × String)
  | .write workspaceId record => some (workspaceId, record.recordType, record.id)
  | .read workspaceId record => some (workspaceId, record.recordType, record.id)
  | _ => none

variable {call : AppCall}

lemma path_eq (call : AppCall) : call.path = Path.segmentsText call.names := by
  have tsv : "/tsv/" = "/" ++ "tsv" ++ "/" := by decide
  have records : "/records/" = "/" ++ "records" ++ "/" := by decide
  cases call with
  | upload workspaceId recordType tsv_file =>
    simp only [path, names, Path.segmentsText, tsv, String.append_assoc, String.append_empty]
  | write workspaceId record =>
    simp only [path, recordPath, names, Path.segmentsText, records, String.append_assoc,
      String.append_empty]
  | read workspaceId record =>
    simp only [path, recordPath, names, Path.segmentsText, records, String.append_assoc,
      String.append_empty]
  | submit request => rfl

lemma names_ne_nil (call : AppCall) : call.names ≠ [] := by
  cases call <;> exact List.cons_ne_nil _ _

lemma plain_names (plain : ∀ s ∈ call.ids, PlainId s) : ∀ s ∈ call.names, PlainId s := by
  have fixed : PlainId "tsv" ∧ PlainId "records" ∧ PlainId recordsVersion := by decide
  cases call with
  | upload workspaceId recordType tsv =>
    simp only [ids, names, List.forall_mem_cons] at plain ⊢
    exact ⟨plain.1, fixed.1, fixed.2.2, plain.2⟩
  | write workspaceId record =>
    simp only [ids, names, List.forall_mem_cons] at plain ⊢
    exact ⟨plain.1, fixed.2.1, fixed.2.2, plain.2⟩
  | read workspaceId record =>
    simp only [ids, names, List.forall_mem_cons] at plain ⊢
    exact ⟨plain.1, fixed.2.1, fixed.2.2, plain.2⟩
  | submit request =>
    have all : ∀ s ∈ ["api", "batch", "v1", "run_sets"], PlainId s := by decide
    exact all

/-- The names on the path to a record are those of no other. -/
lemma names_eq_iff {other : AppCall} {key key' : String × String × String}
    (about : call.record? = some key) (about' : other.record? = some key') :
    call.names = other.names ↔ key = key' := by
  have names_of : ∀ {call : AppCall} {key : String × String × String}, call.record? = some key →
      call.names = [key.1, "records", recordsVersion, key.2.1, key.2.2] := by
    intro call key about
    cases call with
    | upload workspaceId recordType tsv => cases about
    | write workspaceId record => obtain rfl := Option.some.inj about; rfl
    | read workspaceId record => obtain rfl := Option.some.inj about; rfl
    | submit request => cases about
  rw [names_of about, names_of about']
  obtain ⟨workspaceId, recordType, id⟩ := key
  obtain ⟨workspaceId', recordType', id'⟩ := key'
  simp

end AppCall

variable {names : List String}

lemma isSegment_of_plain (plain : ∀ s ∈ names, PlainId s) : ∀ s ∈ names, IsSegment s :=
  fun s mem => isSegment_of_isUnreserved (plain s mem).unreserved

lemma straight_of_plainIds (plain : ∀ s ∈ names, PlainId s) : Path.Straight names :=
  fun s mem => move_of_isUnreserved (plain s mem).unreserved (plain s mem).no_dots

/-- A path of plain names has one slash in front. -/
lemma exists_spelled_of_plain (plain : ∀ s ∈ names, PlainId s) (present : names ≠ []) :
    ∃ c tail, '/' :: c :: tail = spelled names ∧ isUnreserved c = true := by
  obtain ⟨first, rest, rfl⟩ := List.exists_cons_of_ne_nil present
  have first_plain := plain first List.mem_cons_self
  obtain ⟨c, tail, first_eq⟩ := List.exists_cons_of_ne_nil
    fun empty => first_plain.filled (String.toList_inj.mp empty)
  refine ⟨c, tail ++ spelled rest, ?_, first_plain.unreserved c (by simp [first_eq])⟩
  rw [spelled_cons, first_eq, List.cons_append]

/-- Plain names lead below the directories of a base. -/
lemma join_of_plain (plain : ∀ s ∈ names, PlainId s) (present : names ≠ []) (secure : Bool)
    (a : Authority) (dirs : List String) :
    (⟨secure, a, dirs ++ [""], none⟩ : Base).join
        (String.ofList ((Path.segmentsText names).toList.dropWhile (· = '/'))) =
      .ok ⟨Base.schemeOf secure, some a, .segments (dirs ++ names), none, none⟩ := by
  obtain ⟨c, tail, front_eq, c_unreserved⟩ := exists_spelled_of_plain plain present
  have no_slash := not_isSlash_of_isUnreserved c_unreserved
  have no_mark := (solid_of_keeps (plain_of_isUnreserved c_unreserved).2.1).2
  have solid : ∀ d ∈ c :: tail, isControlOrBlank d = false := by
    intro d mem
    refine (solid_of_mem_spelled (isSegment_of_plain plain) ?_).1
    rw [← front_eq]
    exact List.mem_cons_of_mem '/' mem
  have no_colon : ':' ∉ c :: tail := by
    intro mem
    have in_path : ':' ∈ spelled names := front_eq ▸ List.mem_cons_of_mem '/' mem
    rcases eq_slash_or_of_mem_spelled in_path with slash | ⟨s, in_names, in_name⟩
    · cases slash
    · exact absurd ((plain s in_names).unreserved ':' in_name) (by decide)
  have reference_eq : (Path.segmentsText names).toList.dropWhile (· = '/') = c :: tail := by
    have differs : c ≠ '/' := by
      rintro rfl
      exact absurd c_unreserved (by decide)
    rw [toList_segmentsText, ← front_eq, List.dropWhile_cons_of_pos (by decide),
      List.dropWhile_cons_of_neg (by simp [differs])]
  have clean_eq := clean_of_solid solid
  have directory_eq : (dirs ++ [""]).dropLast = dirs := List.dropLast_concat
  have no_scheme := splitScheme_of_no_colon no_colon
  rw [← clean_eq] at no_scheme
  rw [reference_eq, Base.join_of_no_scheme no_scheme, clean_eq,
    Base.resolve_of_plain no_slash no_mark, directory_eq,
    Base.follow_of_spelled front_eq (isSegment_of_plain plain) (straight_of_plainIds plain)]
  rfl

/-- The address below an app that plain names lead to. -/
lemma appUrl_of_plain {p : String} {app : Url} (given : GivenBy p app) {secure : Bool}
    {a : Authority} {list : List String} (made : MadeOf app secure a list)
    (plain : ∀ s ∈ names, PlainId s) (present : names ≠ []) : appUrl p (Path.segmentsText names) =
      .ok ⟨Base.schemeOf secure, some a, .segments (directories list ++ names), none, none⟩ := by
  rw [appUrl_eq, given.bare_eq]
  exact resolve_of_read (base_of_bare_text made) (join_of_plain plain present secure a _)

lemma segmentsText_append (front back : List String) :
    Path.segmentsText (front ++ back) = Path.segmentsText front ++ Path.segmentsText back := by
  rw [← String.toList_inj, String.toList_append, toList_segmentsText, toList_segmentsText,
    toList_segmentsText, spelled_append]

/-- Its text goes on where the text of the app ends. -/
lemma text_below {secure : Bool} {a : Authority} {list : List String} (standing : a.Standing)
    (segments : ∀ s ∈ list, IsSegment s) (names : List String) :
    (⟨Base.schemeOf secure, some a, .segments (directories list ++ names), none, none⟩ : Url).text =
      bare (⟨Base.schemeOf secure, some a, .segments list, none, none⟩ : Url).text ++
        Path.segmentsText names := by
  rw [text_of_segments, bare_text standing segments, segmentsText_append, String.append_assoc,
    String.append_assoc]

/-- What a call with plain identifiers leads to. -/
lemma exists_text_eq {p : String} {app : Url} (given : GivenBy p app) {secure : Bool}
    {a : Authority} {list : List String} (made : MadeOf app secure a list) {call : AppCall}
    (plain : ∀ s ∈ call.ids, PlainId s) : ∃ u, appUrl p call.path = .ok u ∧
      u.authority = some a ∧ u.text = bare p ++ call.path ∧ (Http.askedUrl u).text =
        lead secure ++ ((Http.askedAuthority a).text ++ Path.segmentsText (directories list)) ++
          call.path := by
  rw [AppCall.path_eq]
  refine ⟨_, appUrl_of_plain given made (AppCall.plain_names plain) call.names_ne_nil, rfl, ?_, ?_⟩
  · rw [given.bare_eq, made.url_eq, text_below made.standing made.segments]
  · rw [Http.askedUrl_eq, text_below (Http.standing_askedAuthority made.standing) made.segments,
      bare_text (Http.standing_askedAuthority made.standing) made.segments]

/-- What is asked for is the same but for the path. -/
lemma text_of_request {p : String} {app : Url} (given : GivenBy p app) {secure : Bool}
    {a : Authority} {list : List String} (made : MadeOf app secure a list) {call : AppCall}
    (plain : ∀ s ∈ call.ids, PlainId s) {c : Client} {t : Trace} {r : Http.Request}
    (sends : r ∈ call.request? c p t) : r.url.text =
      lead secure ++ ((Http.askedAuthority a).text ++ Path.segmentsText (directories list)) ++
        call.path := by
  obtain ⟨_, u, found, url_eq, _⟩ := AppCall.of_request? sends
  obtain ⟨v, found', _, _, asked_eq⟩ := exists_text_eq given made plain
  obtain rfl := Except.ok.inj (found.symm.trans found')
  rw [url_eq, asked_eq]

/-- What a request to an app that is given by a text asks for, and under which name. A name that can
be read is taken out of the text and becomes the request's own; anything else stays in it. -/
structure AsksBelow (p : String) (app : Url) (path : String) (r : Http.Request) : Prop where
  user_iff : ∀ name password, r.user = some (name, password) ↔ ∃ a, app.authority = some a ∧
    Http.decodeUser a.username = some name ∧ a.password.bind Http.decodeUser = password ∧
      (name ≠ "" ∨ password ≠ none)
  text_of_nobody : r.user = none → r.url.text = bare p ++ path
  text_of_user : r.user ≠ none → ∃ a behind, app.authority = some a ∧
    bare p = app.scheme ++ "://" ++ a.userText ++ behind ∧
      r.url.text = app.scheme ++ "://" ++ behind ++ path

lemma asksBelow_of_request {p : String} {app : Url} (given : GivenBy p app) {call : AppCall}
    (plain : ∀ s ∈ call.ids, PlainId s) {c : Client} {t : Trace} {r : Http.Request}
    (sends : r ∈ call.request? c p t) : AsksBelow p app call.path r := by
  obtain ⟨secure, a, list, made⟩ := exists_madeOf given.canonical
  obtain ⟨_, u, found, _, user_eq⟩ := AppCall.of_request? sends
  obtain ⟨v, found', authority_eq, _⟩ := exists_text_eq given made plain
  obtain rfl := Except.ok.inj (found.symm.trans found')
  have text_eq := text_of_request given made plain sends
  rw [authority_eq, Option.bind_some] at user_eq
  have app_authority : app.authority = some a := by rw [made.url_eq]
  have lead_eq : lead secure = app.scheme ++ "://" := by
    rw [made.url_eq]
    cases secure <;> rfl
  have bare_eq : bare p = lead secure ++ (a.text ++ Path.segmentsText (directories list)) := by
    rw [given.bare_eq, made.url_eq, bare_text made.standing made.segments]
  refine ⟨?user, ?kept, ?taken⟩
  case user =>
    intro name password
    rw [user_eq, Http.userOf_eq_some_iff]
    constructor
    · intro read
      exact ⟨a, app_authority, read⟩
    · rintro ⟨a', same, read⟩
      obtain rfl := Option.some.inj (app_authority.symm.trans same)
      exact read
  case kept =>
    intro nobody
    have stays : Http.askedAuthority a = a := by simp [Http.askedAuthority, ← user_eq, nobody]
    rw [text_eq, stays, bare_eq]
  case taken =>
    intro somebody
    have goes : Http.askedAuthority a = Http.anonymous a := by
      simp [Http.askedAuthority, ← user_eq, Option.isSome_iff_ne_none.mpr somebody]
    refine ⟨a, (Http.anonymous a).text ++ Path.segmentsText (directories list), app_authority,
      ?_, ?_⟩
    · rw [bare_eq, lead_eq, Http.text_eq_anonymous]
      simp only [String.append_assoc]
    · rw [text_eq, goes, lead_eq]

/-- With plain identifiers, the address of a call is the text of the app with the path behind it,
and that is what the call's request asks for, but for a name in the address of the app. Requests to
write or read a record ask for the same just when they are about the same record. -/
theorem calls_ask_below_app {p : String} {app : Url} (given : GivenBy p app) :
    (∀ call : AppCall, (∀ s ∈ call.ids, PlainId s) →
      (∃ u, appUrl p call.path = .ok u ∧ u.text = bare p ++ call.path) ∧
      ∀ (c : Client) (t : Trace),
        (call.after c p t).requests = t.requests ++ (call.request? c p t).toList ∧
        ∀ r ∈ call.request? c p t, r.bearer = some c.token ∧ AsksBelow p app call.path r) ∧
    ∀ (call other : AppCall) (key key' : String × String × String), call.record? = some key →
      other.record? = some key' → (∀ s ∈ call.ids ++ other.ids, PlainId s) →
      ∀ (c : Client) (t t' : Trace), ∀ r ∈ call.request? c p t, ∀ r' ∈ other.request? c p t',
        r.url.text = r'.url.text ↔ key = key' := by
  obtain ⟨secure, a, list, made⟩ := exists_madeOf given.canonical
  constructor
  · intro call plain
    obtain ⟨u, found, _, text_eq, _⟩ := exists_text_eq given made plain
    refine ⟨⟨u, found, text_eq⟩, fun c t => ⟨AppCall.requests_after c p t call, ?_⟩⟩
    intro r sends
    exact ⟨(AppCall.of_request? sends).1, asksBelow_of_request given plain sends⟩
  · intro call other key key' about about' plain c t t' r sends r' sends'
    obtain ⟨call_plain, other_plain⟩ := List.forall_mem_append.mp plain
    have call_segments := isSegment_of_plain (AppCall.plain_names call_plain)
    have other_segments := isSegment_of_plain (AppCall.plain_names other_plain)
    rw [text_of_request given made call_plain sends, text_of_request given made other_plain sends',
      ← AppCall.names_eq_iff about about', ← spelled_inj call_segments other_segments,
      ← toList_segmentsText, ← toList_segmentsText, ← AppCall.path_eq, ← AppCall.path_eq,
      String.toList_inj, String.append_right_inj]

private def lonely : Client :=
  ⟨⟨.down, fun _ _ => .missing, fun _ => ⟨0⟩, fun _ _ => Fin.last 25⟩, .ofBee "test", "s3cret"⟩

private def lz : Url :=
  ⟨"https", some { host := .name "lz.example.com" }, .segments ["wds-abc-123"], none, none⟩

private def tests : AppCall := .upload "ws-1" "test" "all.tsv"

private def sampleWritten : AppCall :=
  .write "ws-1" { recordType := "sample", id := "s~1", ascending := Named.ascending_nil }

private def sampleRead : AppCall :=
  .read "ws-1" { recordType := "sample", id := "s~1", ascending := Named.ascending_nil }

lemma givenBy_lz : GivenBy "https://lz.example.com/wds-abc-123//" lz where
  canonical := ⟨rfl, rfl, rfl, rfl⟩
  slashes := ⟨2, rfl⟩

/-- An app that is given with two slashes at the end. -/
theorem calls_ask_below_lz : GivenBy "https://lz.example.com/wds-abc-123//" lz ∧
    (∀ s ∈ tests.ids, PlainId s) ∧ (∀ s ∈ sampleWritten.ids ++ sampleRead.ids, PlainId s) ∧
    (∃ u, appUrl "https://lz.example.com/wds-abc-123//" tests.path = .ok u ∧
      u.text = "https://lz.example.com/wds-abc-123/ws-1/tsv/v0.2/test") ∧
    ∃ r ∈ sampleWritten.request? lonely "https://lz.example.com/wds-abc-123//" {},
      ∃ r' ∈ sampleRead.request? lonely "https://lz.example.com/wds-abc-123//" {},
        r.url.text = r'.url.text := by
  have tests_plain : ∀ s ∈ tests.ids, PlainId s := by decide
  have sample_plain : ∀ s ∈ sampleWritten.ids ++ sampleRead.ids, PlainId s := by decide
  obtain ⟨asks, tells⟩ := calls_ask_below_app givenBy_lz
  obtain ⟨⟨u, found, text_eq⟩, _⟩ := asks tests tests_plain
  obtain ⟨r, sends⟩ : ∃ r, r ∈ sampleWritten.request? lonely
    "https://lz.example.com/wds-abc-123//" {} := ⟨_, by with_unfolding_all rfl⟩
  obtain ⟨r', sends'⟩ : ∃ r, r ∈ sampleRead.request? lonely
    "https://lz.example.com/wds-abc-123//" {} := ⟨_, by with_unfolding_all rfl⟩
  refine ⟨givenBy_lz, tests_plain, sample_plain, ⟨u, found, ?_⟩, r, sends, r', sends', ?_⟩
  · rw [text_eq]
    decide
  · exact (tells sampleWritten sampleRead _ _ rfl rfl sample_plain lonely {} {} r sends r'
      sends').mpr rfl

private def named : Url :=
  ⟨"http", some { username := "bee", host := .name "app.test" }, .segments ["wds"], none, none⟩

lemma givenBy_named : GivenBy "http://bee@app.test/wds" named where
  canonical := ⟨rfl, rfl, rfl, rfl⟩
  slashes := ⟨0, rfl⟩

/-- What is sent to write the record there. -/
private def writtenUnderName : Http.Request where
  method := .put
  url := ⟨"http", some { host := .name "app.test" },
    .segments ["wds", "ws-1", "records", "v0.2", "sample", "s~1"], none, none⟩
  bearer := some "s3cret"
  body := .json "\x7b\"attributes\":\x7b\x7d\x7d"
  user := some ("bee", none)

/-- With a name in the address of the app, what is asked for does not start with its text. -/
theorem name_of_app_not_asked : GivenBy "http://bee@app.test/wds" named ∧
    (∀ s ∈ sampleWritten.ids, PlainId s) ∧
    ∃ r ∈ (sampleWritten.after lonely "http://bee@app.test/wds" {}).requests,
      r.url.text = "http://app.test/wds/ws-1/records/v0.2/sample/s~1" ∧
      r.url.text ≠ bare "http://bee@app.test/wds" ++ sampleWritten.path := by
  have sends : sampleWritten.request? lonely "http://bee@app.test/wds" {} =
      some writtenUnderName := by decide +kernel
  refine ⟨givenBy_named, by decide, writtenUnderName, ?_, rfl, by decide⟩
  rw [AppCall.requests_after, sends]
  exact List.mem_singleton_self writtenUnderName

end Load
end Shakedown
