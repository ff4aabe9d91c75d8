import DocStore.Proofs.Dict
import DocStore.Proofs.Fallible
import DocStore.Source.Http

/-!
# Which entity tag a web source sends along

A web source remembers the entity tag of the document that it reported last. An answer that reports none
leaves the tag as it is: nothing new, a failure of the server, a body that cannot be read. A document
without a tag takes the tag away, and what is sent then is what the configuration says.

Were the tag of a document kept that was not reported, the server would answer that nothing has changed,
and the document would never be seen.

Results:
  * `receives`: what one answer does;
  * `receive_eq_none_iff`, `receive_eq_some_iff`: what an answer means;
  * `receive_of_quiet`: an answer that reports nothing changes nothing;
  * `source_of_quiet`: neither does a row of them;
  * `tags_exact`: which tag each request of a source sends along.
-/

namespace DocStore

/-! ## Configured headers -/

namespace HttpConfig

variable {headers read : Dict String} {entries : List (String × Value)} {name value : String}

/-- The entry whose name counts as this one and after which no other one does. -/
def Configures (entries : List (String × Value)) (name value : String) : Prop :=
  ∃ before written after, entries = before ++ (written, .string value) :: after ∧
    written.toLower = name ∧ ∀ entry ∈ after, entry.1.toLower ≠ name

theorem configures_nil : ¬ Configures [] name value := by
  rintro ⟨before, written, after, split, -⟩
  cases before <;> cases split

theorem configures_cons {written : String} {v : Value} :
    Configures ((written, v) :: entries) name value ↔ Configures entries name value ∨
      v = .string value ∧ written.toLower = name ∧ ∀ entry ∈ entries, entry.1.toLower ≠ name := by
  constructor
  · rintro ⟨before, other, after, split, lower, last⟩
    cases before with
    | nil =>
      cases split
      exact .inr ⟨rfl, lower, last⟩
    | cons head before =>
      obtain ⟨rfl, rfl⟩ := List.cons.inj split
      exact .inl ⟨before, other, after, rfl, lower, last⟩
  · rintro (⟨before, other, after, rfl, lower, last⟩ | ⟨rfl, lower, last⟩)
    · exact ⟨(written, v) :: before, other, after, rfl, lower, last⟩
    · exact ⟨[], written, entries, rfl, lower, last⟩

/-- An entry that can be added is a header. -/
theorem addHeaders_cons {written : String} {v : Value}
    (ok : addHeaders headers ((written, v) :: entries) = .ok read) :
    ∃ text, v = .string text ∧ addHeaders (headers.insert written.toLower text) entries = .ok read := by
  cases v with
  | string text =>
    simp only [addHeaders] at ok
    split at ok
    · cases ok
    · split at ok
      · cases ok
      · exact ⟨text, rfl, ok⟩
  | null | bool | int | float | array | object => cases ok

theorem ordered_addHeaders (ok : addHeaders headers entries = .ok read) (ordered : headers.Ordered) :
    read.Ordered := by
  induction entries generalizing headers with
  | nil =>
    cases ok
    exact ordered
  | cons entry rest ih =>
    obtain ⟨text, -, later⟩ := addHeaders_cons ok
    exact ih later (ordered.insert _ _)

/-- What is configured under a name is what the last entry says whose name counts as this one, and what
there was before if no entry has such a name. -/
theorem find?_addHeaders (ok : addHeaders headers entries = .ok read) :
    read.find? name = some value ↔ Configures entries name value ∨
      headers.find? name = some value ∧ ∀ entry ∈ entries, entry.1.toLower ≠ name := by
  induction entries generalizing headers with
  | nil =>
    cases ok
    simp [configures_nil]
  | cons entry rest ih =>
    obtain ⟨written, v⟩ := entry
    obtain ⟨text, rfl, later⟩ := addHeaders_cons ok
    rw [ih later, configures_cons, or_assoc, List.forall_mem_cons]
    refine or_congr_right ?_
    by_cases same : name = written.toLower
    · subst same
      simp
    · rw [Dict.find?_insert_ne _ _ same]
      simp [Ne.symm same]

theorem headersOf_ofFields {fields : Dict Value} {c : HttpConfig} (ok : ofFields fields = .ok c) :
    headersOf (fields.find? "headers") = .ok c.headers := by
  unfold ofFields at ok
  obtain ⟨url, -, ok⟩ := bind_ok ok
  obtain ⟨headers, read, ok⟩ := bind_ok ok
  obtain ⟨timeout, -, ok⟩ := bind_ok ok
  cases ok
  exact read

/-- The headers that a configuration reads. -/
theorem headers_ofFields {fields : Dict Value} {c : HttpConfig} (ok : ofFields fields = .ok c) :
    c.headers.Ordered ∧ ∀ name value, c.headers.find? name = some value ↔
      ∃ entries, fields.find? "headers" = some (.object entries) ∧ Configures entries name value := by
  have read := headersOf_ofFields ok
  cases given : fields.find? "headers" with
  | none =>
    rw [given] at read
    rw [← Except.ok.inj read]
    exact ⟨List.Pairwise.nil, by simp⟩
  | some v =>
    rw [given] at read
    cases v with
    | object entries =>
      have added := mapError_ok read
      refine ⟨ordered_addHeaders added List.Pairwise.nil, fun name value => ?_⟩
      rw [find?_addHeaders added]
      simp
    | null =>
      rw [← Except.ok.inj read]
      exact ⟨List.Pairwise.nil, by simp⟩
    | bool | int | float | string | array => cases read

end HttpConfig

namespace HttpSource

variable {s : HttpSource} {a : HttpAnswer} {body : Value}

/-! ## What an answer means -/

/-- What becomes of a source, and what it reports, by the answer that it gets. -/
inductive Receives (s : HttpSource) (a : HttpAnswer) :
    HttpSource × Except PluginError (Option Value) → Prop
  | unmodified : a.status = 304 → Receives s a (s, .ok none)
  | refused (e : PluginError) : a.status ≠ 304 → ¬ (200 ≤ a.status ∧ a.status < 300) →
      Receives s a (s, .error e)
  | unreadable (e : PluginError) : 200 ≤ a.status ∧ a.status < 300 → Json.read? a.received = none →
      Receives s a (s, .error e)
  | document (body : Value) : 200 ≤ a.status ∧ a.status < 300 → Json.read? a.received = some body →
      Receives s a ({ s with entityTag := a.entityTag }, .ok (some body))

theorem receives (s : HttpSource) (a : HttpAnswer) : Receives s a (s.receive a) := by
  unfold receive
  split
  · next unmodified => exact .unmodified unmodified
  · next modified =>
    simp only [Bool.or_eq_true, decide_eq_true_eq]
    split
    · next failed => exact .refused _ modified fun success => by omega
    · next success =>
      have range : 200 ≤ a.status ∧ a.status < 300 := by omega
      cases read : Json.read? a.received with
      | none => exact .unreadable _ range read
      | some body => exact .document body range read

/-- A source has nothing new to report when the server says that nothing has changed. -/
theorem receive_eq_none_iff : (s.receive a).2 = .ok none ↔ a.status = 304 := by
  have step := receives s a
  generalize s.receive a = after at step ⊢
  cases step with
  | unmodified status => exact iff_of_true rfl status
  | refused e status => exact iff_of_false (fun never => by cases never) status
  | unreadable e success | document body success =>
    exact iff_of_false (fun never => by cases never) (by omega)

/-- A source reports the documents that come with success and can be read. -/
theorem receive_eq_some_iff : (s.receive a).2 = .ok (some body) ↔
    (200 ≤ a.status ∧ a.status < 300) ∧ Json.read? a.received = some body := by
  have step := receives s a
  generalize s.receive a = after at step ⊢
  cases step with
  | unmodified status =>
    refine iff_of_false (fun never => by cases never) ?_
    rintro ⟨success, -⟩
    omega
  | refused e status failed => exact iff_of_false (fun never => by cases never) fun read => failed read.1
  | unreadable e success nothing => simp [nothing]
  | document other success read => simp [success, read]

/-- An answer that reports nothing leaves the source as it is. -/
theorem receive_of_quiet (quiet : ∀ body, (s.receive a).2 ≠ .ok (some body)) : (s.receive a).1 = s := by
  have step := receives s a
  generalize s.receive a = after at step quiet ⊢
  cases step with
  | unmodified | refused | unreadable => rfl
  | document body => exact absurd rfl (quiet body)

/-- A source that reports a document takes its tag, if it has one. -/
theorem receive_of_report (report : (s.receive a).2 = .ok (some body)) :
    (s.receive a).1 = { s with entityTag := a.entityTag } := by
  have step := receives s a
  generalize s.receive a = after at step report ⊢
  cases step with
  | unmodified | refused | unreadable => cases report
  | document => rfl

theorem config_receive (s : HttpSource) (a : HttpAnswer) : (s.receive a).1.config = s.config := by
  have step := receives s a
  generalize s.receive a = after at step ⊢
  cases step <;> rfl

/-! ## What a request says -/

/-- The headers of a request that do not depend on earlier answers. -/
theorem find?_request_of_ne (s : HttpSource) {name : String} (other : name ≠ "if-none-match") :
    s.request.headers.find? name = (HttpSource.new s.config).request.headers.find? name := by
  unfold request HttpSource.new
  cases s.entityTag with
  | none => rfl
  | some tag => exact Dict.find?_insert_ne _ tag other

/-- The tag that is held is sent along, else the one of the configuration. -/
theorem find?_request_tag (s : HttpSource) : s.request.headers.find? "if-none-match" =
    s.entityTag.or (s.config.headers.find? "if-none-match") := by
  unfold request
  cases s.entityTag with
  | some tag => exact Dict.find?_insert_self _ _ tag
  | none =>
    cases authorization? s.config.url with
    | none => rfl
    | some value => exact Dict.find?_insert_ne _ value (by decide)

/-- No header is sent twice. -/
theorem ordered_request (ordered : s.config.headers.Ordered) : s.request.headers.Ordered := by
  have authorized (value : String) := ordered.insert "authorization" value
  unfold request
  cases authorization? s.config.url with
  | none =>
    cases s.entityTag with
    | none => exact ordered
    | some tag => exact ordered.insert "if-none-match" tag
  | some value =>
    cases s.entityTag with
    | none => exact authorized value
    | some tag => exact (authorized value).insert "if-none-match" tag

/-! ## Exchanges with the server -/

/-- A request and its answer: the source as it was when it asked, and what it was told. -/
structure Exchange where
  source : HttpSource
  answer : HttpAnswer

namespace Exchange

/-- The source after the answer. -/
def after (x : Exchange) : HttpSource := (x.source.receive x.answer).1

/-- What the source reports. -/
def result (x : Exchange) : Except PluginError (Option Value) := (x.source.receive x.answer).2

/-- The entity tag that is sent along. -/
def sentTag? (x : Exchange) : Option String := x.source.request.headers.find? "if-none-match"

/-- The source reports a document. -/
def Reports (x : Exchange) : Prop := ∃ body, x.result = .ok (some body)

end Exchange

/-- The exchanges of a source that gets these answers, one after the other. -/
def exchanges (s : HttpSource) : List HttpAnswer → List Exchange
  | [] => []
  | a :: rest => ⟨s, a⟩ :: exchanges (s.receive a).1 rest

variable {answers : List HttpAnswer} {m n : Nat} {x y z : Exchange}

/-- Each answer is the answer of an exchange. -/
theorem answers_of_exchanges (s : HttpSource) (answers : List HttpAnswer) :
    (s.exchanges answers).map (·.answer) = answers := by
  induction answers generalizing s with
  | nil => rfl
  | cons a rest ih => exact congrArg (a :: ·) (ih _)

theorem source_of_first (first : (s.exchanges answers)[0]? = some x) : x.source = s := by
  cases answers with
  | nil => cases first
  | cons a rest =>
    cases first
    rfl

/-- A source goes on as the exchange before has left it. -/
theorem source_of_next (before : (s.exchanges answers)[n]? = some x)
    (next : (s.exchanges answers)[n + 1]? = some y) : y.source = x.after := by
  induction answers generalizing s n with
  | nil => cases before
  | cons a rest ih =>
    cases n with
    | zero =>
      cases before
      exact source_of_first next
    | succ n => exact ih before next

theorem config_of_exchange (within : x ∈ s.exchanges answers) : x.source.config = s.config := by
  induction answers generalizing s with
  | nil => cases within
  | cons a rest ih =>
    rcases List.mem_cons.1 within with rfl | later
    · rfl
    · rw [ih later, config_receive]

/-- While nothing is reported the source stays the same. -/
theorem source_of_quiet (first : (s.exchanges answers)[m]? = some x)
    (last : (s.exchanges answers)[m + n]? = some y)
    (quiet : ∀ k z, m ≤ k → k < m + n → (s.exchanges answers)[k]? = some z → ¬ z.Reports) :
    y.source = x.source := by
  induction n generalizing y with
  | zero =>
    cases first.symm.trans last
    rfl
  | succ n ih =>
    have within : m + n < (s.exchanges answers).length := by
      have bound := (List.getElem?_eq_some_iff.1 last).1
      omega
    have before := List.getElem?_eq_getElem within
    have still := ih before fun k z above below found => quiet k z above (by omega) found
    have silent := quiet (m + n) _ (by omega) (by omega) before
    rw [source_of_next before last, ← still]
    exact receive_of_quiet fun body report => silent ⟨body, report⟩

/-! ## The result -/

/-- What a source sends along and reports that gets these answers. -/
structure Polls (c : HttpConfig) (answers : List HttpAnswer) : Prop where
  /-- There is an exchange for each answer. -/
  answered : ((new c).exchanges answers).map (·.answer) = answers
  /-- There is nothing new exactly when the server says that nothing has changed. -/
  nothing : ∀ x ∈ (new c).exchanges answers, x.result = .ok none ↔ x.answer.status = 304
  /-- A document is reported exactly when it comes with success and can be read. -/
  document : ∀ x ∈ (new c).exchanges answers, ∀ body, x.result = .ok (some body) ↔
    (200 ≤ x.answer.status ∧ x.answer.status < 300) ∧ Json.read? x.answer.received = some body
  /-- Any other answer leaves the tag that is held, and everything else, as it is. -/
  kept : ∀ x ∈ (new c).exchanges answers, ¬ x.Reports → x.after = x.source
  /-- Before anything has been reported no tag is held, and what is configured is sent. -/
  fresh : ∀ (n : Nat) (y : Exchange), ((new c).exchanges answers)[n]? = some y →
    (∀ (k : Nat) (z : Exchange), k < n → ((new c).exchanges answers)[k]? = some z → ¬ z.Reports) →
    y.source.entityTag = none ∧ y.sentTag? = c.headers.find? "if-none-match"
  /-- Later the tag of the document reported last is held and sent; when that one had no tag, what is
  configured is sent. -/
  last : ∀ (m n : Nat) (x y : Exchange), m < n → ((new c).exchanges answers)[m]? = some x →
    ((new c).exchanges answers)[n]? = some y → x.Reports →
    (∀ (k : Nat) (z : Exchange), m < k → k < n →
      ((new c).exchanges answers)[k]? = some z → ¬ z.Reports) →
    y.source.entityTag = x.answer.entityTag ∧
      y.sentTag? = x.answer.entityTag.or (c.headers.find? "if-none-match")
  /-- The rest of a request does not depend on the answers. -/
  others : ∀ x ∈ (new c).exchanges answers, x.source.request.target = (new c).request.target ∧
    ∀ name, name ≠ "if-none-match" →
      x.source.request.headers.find? name = (new c).request.headers.find? name
  /-- When the configuration has been read, no header is sent twice, and what is configured under a name
  is what the last entry says whose name counts as this one. -/
  configured : ∀ fields, HttpConfig.ofFields fields = .ok c →
    (∀ x ∈ (new c).exchanges answers, x.source.request.headers.Ordered) ∧
    ∀ name value, c.headers.find? name = some value ↔ ∃ entries,
      fields.find? "headers" = some (.object entries) ∧ HttpConfig.Configures entries name value

theorem sentTag?_eq {c : HttpConfig} (within : x ∈ (new c).exchanges answers) :
    x.sentTag? = x.source.entityTag.or (c.headers.find? "if-none-match") := by
  rw [Exchange.sentTag?, find?_request_tag, config_of_exchange within]
  rfl

/-- The tag that a web source holds belongs to the document that it reported last, whatever the server
answers. -/
theorem tags_exact (c : HttpConfig) (answers : List HttpAnswer) : Polls c answers := by
  constructor
  case answered => exact answers_of_exchanges _ _
  case nothing => exact fun x _ => receive_eq_none_iff
  case document => exact fun x _ body => receive_eq_some_iff
  case kept =>
    intro x _ silent
    exact receive_of_quiet fun body report => silent ⟨body, report⟩
  case fresh =>
    intro n y found quiet
    have still : y.source = new c := by
      have within : 0 < ((new c).exchanges answers).length := by
        have bound := (List.getElem?_eq_some_iff.1 found).1
        omega
      have first := List.getElem?_eq_getElem within
      rw [← source_of_first first]
      rw [← Nat.zero_add n] at found
      exact source_of_quiet first found fun k z _ below => quiet k z (by omega)
    rw [sentTag?_eq (List.mem_of_getElem? found), still]
    exact ⟨rfl, rfl⟩
  case last =>
    intro m n x y before found found' reports quiet
    -- The exchange after the report finds the tag, and the others leave it.
    obtain ⟨d, rfl⟩ := Nat.exists_eq_add_of_le before
    have within : m + 1 < ((new c).exchanges answers).length := by
      have bound := (List.getElem?_eq_some_iff.1 found').1
      omega
    have next := List.getElem?_eq_getElem within
    have still := source_of_quiet next found' fun k z above => quiet k z (by omega)
    obtain ⟨body, report⟩ := reports
    have held : y.source.entityTag = x.answer.entityTag := by
      rw [still, source_of_next found next, Exchange.after, receive_of_report report]
    exact ⟨held, by rw [sentTag?_eq (List.mem_of_getElem? found'), held]⟩
  case others =>
    intro x within
    have same : x.source.config = c := config_of_exchange within
    constructor
    · show x.source.config.url.target = c.url.target
      rw [same]
    · intro name other
      rw [find?_request_of_ne x.source other, same]
  case configured =>
    intro fields ok
    obtain ⟨ordered, given⟩ := HttpConfig.headers_ofFields ok
    refine ⟨fun x within => ordered_request ?_, given⟩
    rw [config_of_exchange within]
    exact ordered

end HttpSource

end DocStore
