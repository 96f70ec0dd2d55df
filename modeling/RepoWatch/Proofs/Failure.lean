import RepoWatch.Feed.Publication
import RepoWatch.Proofs.Fetch.Attempts
import RepoWatch.Watch.Basic
/-!
# Kinds and reasons of failures

What kind of fault an error amounts to and what its message says, whatever contexts it was given. On
the way from a fetch to those who are told of the failure neither the kind nor the reason is lost.
-/

namespace RepoWatch

namespace QueryFault

inductive Kind where
  | parse
  | remote
  | cacheMiss
deriving DecidableEq, Repr

def kind : QueryFault → Kind
  | .parse _ => .parse
  | .remote _ => .remote
  | .cacheMiss _ => .cacheMiss

/-- The fault of a kind with a message. -/
def Kind.fault (message : String) : Kind → QueryFault
  | .parse => .parse message
  | .remote => .remote message
  | .cacheMiss => .cacheMiss message

theorem kind_eq_iff {f : QueryFault} {k : Kind} : f.kind = k ↔ ∃ m, f = k.fault m := by
  constructor
  · rintro rfl
    cases f <;> exact ⟨_, rfl⟩
  · rintro ⟨m, rfl⟩
    cases k <;> rfl

@[simp] theorem kind_withMessage (f : QueryFault) (m : String) :
    (f.withMessage m).kind = f.kind := by
  cases f <;> rfl

@[simp] theorem message_withMessage (f : QueryFault) (m : String) :
    (f.withMessage m).message = m := by
  cases f <;> rfl

/-- The text of a fault ends with its message. -/
theorem exists_text_eq (f : QueryFault) : ∃ before, f.text = before ++ f.message := by
  cases f with
  | parse m => exact ⟨"Parsing error: ", rfl⟩
  | remote m => exact ⟨"Remote error: ", rfl⟩
  | cacheMiss m => exact ⟨"No cached data for query ", rfl⟩

/-- A fault is the outermost one among layers, the outermost of which is the first. -/
def IsOutermost (f : QueryFault) (layers : List Layer) : Prop :=
  ∃ outer inner, layers = outer ++ .fault f :: inner ∧ ∀ layer ∈ outer, ∃ text, layer = .plain text

end QueryFault

open QueryFault

namespace Layer

theorem fault?_eq_some_iff {layer : Layer} {f : QueryFault} :
    layer.fault? = some f ↔ layer = .fault f := by
  cases layer <;> simp [fault?]

theorem fault?_eq_none_iff {layer : Layer} : layer.fault? = none ↔ ∃ text, layer = .plain text := by
  cases layer <;> simp [fault?]

theorem findSome?_fault?_eq_some_iff {layers : List Layer} {f : QueryFault} :
    layers.findSome? fault? = some f ↔ f.IsOutermost layers := by
  simp only [List.findSome?_eq_some_iff, fault?_eq_some_iff, fault?_eq_none_iff, IsOutermost]
  constructor
  · rintro ⟨outer, _, inner, hlayers, rfl, houter⟩
    exact ⟨outer, inner, hlayers, houter⟩
  · rintro ⟨outer, inner, hlayers, houter⟩
    exact ⟨outer, _, inner, hlayers, rfl, houter⟩

end Layer

namespace ErrorChain

variable (e : ErrorChain)

@[simp] theorem layers_wrap (context : Layer) : (e.wrap context).layers = context :: e.layers := rfl

theorem layers_foldl_wrap (contexts : List Layer) :
    (contexts.foldl wrap e).layers = contexts.reverse ++ e.layers := by
  induction contexts generalizing e with
  | nil => rfl
  | cons context contexts ih => simp [ih]

@[simp] theorem message_toFault : e.toFault.message = e.full := message_withMessage _ _

/-- The kind is that of the outermost fault. -/
theorem kind_toFault :
    e.toFault.kind = ((e.layers.findSome? Layer.fault?).map kind).getD .remote := by
  unfold toFault
  rw [kind_withMessage]
  cases e.layers.findSome? Layer.fault? <;> rfl

theorem kind_toFault_eq_iff {k : Kind} (hk : k ≠ .remote) :
    e.toFault.kind = k ↔ ∃ m, (k.fault m).IsOutermost e.layers := by
  simp only [kind_toFault, ← Layer.findSome?_fault?_eq_some_iff]
  cases e.layers.findSome? Layer.fault? with
  | none => simpa using hk.symm
  | some f => simpa using kind_eq_iff

theorem kind_toFault_eq_remote_iff : e.toFault.kind = .remote ↔
    (∃ m, (remote m).IsOutermost e.layers) ∨ ∀ layer ∈ e.layers, ∃ text, layer = .plain text := by
  simp only [kind_toFault, ← Layer.findSome?_fault?_eq_some_iff, ← Layer.fault?_eq_none_iff,
    ← List.findSome?_eq_none_iff]
  cases e.layers.findSome? Layer.fault? with
  | none => simp
  | some f => simpa [Kind.fault] using kind_eq_iff (f := f) (k := .remote)

theorem full_wrap (context : Layer) : (e.wrap context).full = context.text ++ ": " ++ e.full := by
  unfold full
  rw [layers_wrap, List.map_cons, String.intercalate_cons_of_ne_nil]
  simp [layers]

theorem kind_toFault_wrap_plain (text : String) :
    (e.wrap (.plain text)).toFault.kind = e.toFault.kind := by
  rw [kind_toFault, kind_toFault, layers_wrap]
  rfl

theorem exists_full_foldl_wrap (contexts : List Layer) :
    ∃ before, (contexts.foldl wrap e).full = before ++ e.full := by
  induction contexts generalizing e with
  | nil => exact ⟨"", (String.empty_append).symm⟩
  | cons context contexts ih =>
      obtain ⟨before, hfull⟩ := ih (e.wrap context)
      refine ⟨before ++ (context.text ++ ": "), ?_⟩
      rw [List.foldl_cons, hfull, full_wrap, ← String.append_assoc]

theorem kind_toFault_foldl_wrap_plain (texts : List String) :
    ((texts.map Layer.plain).foldl wrap e).toFault.kind = e.toFault.kind := by
  induction texts generalizing e with
  | nil => rfl
  | cons text texts ih => exact (ih _).trans (e.kind_toFault_wrap_plain text)

/-- A fault that is an error again amounts to a fault of its kind. -/
theorem kind_toFault_ofFault (f : QueryFault) : (ofFault f).toFault.kind = f.kind := by
  rw [kind_toFault]
  rfl

theorem exists_full_ofFault (f : QueryFault) :
    ∃ before, (ofFault f).full = before ++ f.message := by
  have hfull : (ofFault f).full = f.text := String.intercalate_singleton
  rw [hfull]
  exact f.exists_text_eq

end ErrorChain

/-- The error of a fetch that is retried is one of the fetch itself, told how many attempts there
were. -/
theorem Plan.exists_wrap_of_retrying {ι α : Type} {policy : RetryPolicy} {operation : Operation}
    {fetch : Plan ι (Except ErrorChain α)} {acts : List (Act ι)} {last : ErrorChain}
    (h : (retrying policy operation fetch).Course acts (some (.finished (.error last)))) :
    ∃ own e text, fetch.Course own (some (.finished (.error e))) ∧ last = e.wrap (.plain text) := by
  obtain ⟨failed, lastActs, goes⟩ := retrying_course_iff.1 h
  cases goes.isLast with
  | givesUp hfetch => exact ⟨_, _, _, hfetch, rfl⟩

/-- What is published for a watch whose fetch ends with an error. -/
theorem Watch.step_answer_error {x : Watch} (hfetching : x.isFetching = true) (e : ErrorChain)
    (cache : Cache) : (x.answer true (.error e)).step true cache =
      some (x.goTo .completing, .send (.failure e.toFault)) := by
  simp [answer, hfetching, step, emit, goTo]

/-- The kind of fault that an error amounts to is that of the outermost fault among its contexts and
its base, or else remote, and its message has the texts of the contexts from the outermost inwards
and of the base. Plain words around an error leave the kind as it is and come before the message; and
when the fault becomes an error again, gets plain words around it and is classified once more, it is
of the same kind and the message that it had is the end of the new one. So the failure that is
published for a fetch that was retried has the kind and the reason of the error of the fetch. -/
theorem classification_survives_wrapping (base : Layer) (contexts : List Layer) :
    let e := contexts.foldl ErrorChain.wrap ⟨base, []⟩
    let layers := contexts.reverse ++ [base]
    (e.toFault.kind = .parse ↔ ∃ reason, (parse reason).IsOutermost layers) ∧
    (e.toFault.kind = .cacheMiss ↔ ∃ reason, (cacheMiss reason).IsOutermost layers) ∧
    (e.toFault.kind = .remote ↔ (∃ reason, (remote reason).IsOutermost layers) ∨
      ∀ layer ∈ layers, ∃ text, layer = .plain text) ∧
    e.toFault.message = ": ".intercalate (layers.map Layer.text) ∧
    (∀ text, (e.wrap (.plain text)).toFault.kind = e.toFault.kind ∧
      (e.wrap (.plain text)).toFault.message = text ++ ": " ++ e.toFault.message) ∧
    (∀ texts : List String,
      let again := (texts.map Layer.plain).foldl ErrorChain.wrap (.ofFault e.toFault)
      again.toFault.kind = e.toFault.kind ∧
        ∃ before, again.toFault.message = before ++ e.toFault.message) ∧
    ∀ {ι α : Type} (policy : RetryPolicy) (operation : Operation)
      (fetch : Plan ι (Except ErrorChain α)) (acts : List (Plan.Act ι)) (last : ErrorChain)
      (x : Watch) (cache : Cache),
      (Plan.retrying policy operation fetch).Course acts (some (.finished (.error last))) →
      x.isFetching = true → ∃ own reason event failure before,
        fetch.Course own (some (.finished (.error reason))) ∧
        (x.answer true (.error last)).step true cache = some (x.goTo .completing, .send event) ∧
        event.publication operation = some (.failure failure) ∧
        failure.operation = operation.name ∧ failure.source.kind = reason.toFault.kind ∧
        failure.text = before ++ reason.toFault.message := by
  intro e layers
  have hlayers : e.layers = layers := ErrorChain.layers_foldl_wrap _ _
  refine ⟨?parse, ?cacheMiss, ?remote, ?message, fun text => ?wrapped, fun texts => ?again, ?path⟩
  case parse =>
    rw [← hlayers]
    exact e.kind_toFault_eq_iff (by decide)
  case cacheMiss =>
    rw [← hlayers]
    exact e.kind_toFault_eq_iff (by decide)
  case remote =>
    rw [← hlayers]
    exact e.kind_toFault_eq_remote_iff
  case message => rw [e.message_toFault, ErrorChain.full, hlayers]
  case wrapped =>
    refine ⟨e.kind_toFault_wrap_plain text, ?_⟩
    rw [ErrorChain.message_toFault, ErrorChain.message_toFault, ErrorChain.full_wrap]
    rfl
  case again =>
    -- the old message ends the text of the fault, and that text the new message
    obtain ⟨outer, houter⟩ :=
      (ErrorChain.ofFault e.toFault).exists_full_foldl_wrap (texts.map Layer.plain)
    obtain ⟨inner, hinner⟩ := ErrorChain.exists_full_ofFault e.toFault
    refine ⟨(ErrorChain.kind_toFault_foldl_wrap_plain _ texts).trans
      (ErrorChain.kind_toFault_ofFault _), outer ++ inner, ?_⟩
    rw [ErrorChain.message_toFault, houter, hinner, String.append_assoc]
  case path =>
    intro ι α policy operation fetch acts last x cache hcourse hfetching
    obtain ⟨own, reason, text, hfetch, rfl⟩ := Plan.exists_wrap_of_retrying hcourse
    obtain ⟨label, hlabel⟩ := (reason.wrap (.plain text)).toFault.exists_text_eq
    refine ⟨own, reason, _, ⟨operation.name, (reason.wrap (.plain text)).toFault⟩,
      "Query " ++ operation.name ++ " failed: " ++ label ++ (text ++ ": "), hfetch,
      Watch.step_answer_error hfetching _ cache, rfl, rfl, reason.kind_toFault_wrap_plain text, ?_⟩
    rw [QueryFailure.text, hlabel, ErrorChain.message_toFault, ErrorChain.message_toFault,
      ErrorChain.full_wrap]
    simp only [Layer.text, String.append_assoc]

/-- A fetch that is given up after one attempt, for what was read could not be understood. -/
theorem classification_survives_wrapping_given_up :
    let unread : ErrorChain := .ofFault (.parse "bad json")
    let fetch : Plan Unit (Except ErrorChain Unit) := .done (.error unread)
    let last := unread.wrap (.plain "Failed after 1 attempts")
    let x : Watch := ⟨.commits "own", .networkOnly, 0, none, .fetching⟩
    (Plan.retrying ⟨1, ⟨0⟩⟩ .commits fetch).Course
        [.notes (.attemptFailed 1 .commits "Parsing error: bad json")]
        (some (.finished (.error last))) ∧
      x.isFetching = true ∧ ∃ event failure before,
        (x.answer true (.error last)).step true .empty =
          some (x.goTo .completing, .send event) ∧
        event.publication .commits = some (.failure failure) ∧ failure.source.kind = .parse ∧
        failure.text = before ++ "Parsing error: bad json" := by
  intro unread fetch last x
  have hcourse : (Plan.retrying ⟨1, ⟨0⟩⟩ .commits fetch).Course
      [.notes (.attemptFailed 1 .commits "Parsing error: bad json")]
      (some (.finished (.error last))) :=
    Plan.retrying_course_iff.2 ⟨[], _, .nil (.givesUp (.done _) rfl) (by decide)⟩
  obtain ⟨own, reason, event, failure, before, hfetch, hstep, hpublished, -, hkind, htext⟩ :=
    (classification_survives_wrapping (.fault (.parse "bad json")) []).2.2.2.2.2.2
      ⟨1, ⟨0⟩⟩ .commits fetch _ last x .empty hcourse rfl
  have hreason : reason = unread := by
    have hsame := (Plan.course_done_iff.1 hfetch).2 _ rfl
    cases hsame
    rfl
  rw [hreason] at hkind htext
  exact ⟨hcourse, rfl, event, failure, before, hstep, hpublished, hkind, htext⟩

end RepoWatch
