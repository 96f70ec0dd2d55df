import RepoWatch.Proofs.Text.Marks
import RepoWatch.Proofs.Watch.Protocol
/-!
# The texts of queries

The text of a query tells which query it is, whatever characters the name of a repository has. A name
is written as it is, so that the text of a detail query is read from its end: the last bracket that
opens is the one before the states, because no state has a bracket. A cache miss tells nothing but the
text, and so it tells which query it was that found nothing.
-/

namespace RepoWatch

/-! ## The words of a query -/

theorem RepositoryOrder.label_injective : Function.Injective label := by
  intro order order'
  cases order <;> cases order' <;> decide

theorem RepositoryOrder.comma_not_mem_label (order : RepositoryOrder) :
    ',' ∉ order.label.toList := by
  cases order <;> decide

theorem Direction.label_injective : Function.Injective label := by
  intro direction direction'
  cases direction <;> cases direction' <;> decide

namespace PullRequestState

theorem label_injective : Function.Injective label := by
  intro state state'
  cases state <;> cases state' <;> decide

theorem label_toList (state : PullRequestState) :
    state.label.toList ≠ [] ∧ ',' ∉ state.label.toList ∧ '[' ∉ state.label.toList := by
  cases state <;> decide

/-- The states, as the text of a query lists them. -/
theorem toList_labels (states : List PullRequestState) :
    (", ".intercalate (states.map label)).toList =
      [',', ' '].intercalate (states.map fun state => state.label.toList) := by
  rw [String.toList_intercalate, List.map_map]
  rfl

theorem labels_injective :
    Function.Injective fun states : List PullRequestState => ", ".intercalate (states.map label) := by
  intro states states' h
  have hchars := congrArg String.toList h
  simp only [toList_labels] at hchars
  have hlabels : ∀ states : List PullRequestState,
      ∀ word ∈ states.map fun state => state.label.toList, word ≠ [] ∧ ',' ∉ word := by
    intro states word hword
    obtain ⟨state, -, rfl⟩ := List.mem_map.1 hword
    obtain ⟨hne, hcomma, -⟩ := state.label_toList
    exact ⟨hne, hcomma⟩
  have hwords := Text.eq_of_intercalate (hlabels states) (hlabels states') hchars
  exact (List.map_inj_right fun state state' hlabel =>
    label_injective (String.toList_injective hlabel)).1 hwords

theorem bracket_not_mem_labels (states : List PullRequestState) :
    '[' ∉ (", ".intercalate (states.map label)).toList := by
  rw [toList_labels]
  intro hmem
  rcases Text.mem_intercalate hmem with hsep | ⟨word, hword, hbracket⟩
  · exact absurd hsep (by decide)
  · obtain ⟨state, -, rfl⟩ := List.mem_map.1 hword
    exact state.label_toList.2.2 hbracket

end PullRequestState

/-! ## Texts -/

namespace Query

/-- The first word of a text tells the kind of the query. -/
theorem operation_eq_of_text {a b : Query} (h : a.text = b.text) : a.operation = b.operation := by
  unfold text at h
  have hchars := congrArg String.toList h
  cases a <;> cases b <;> first | rfl | simp at hchars

theorem repositories_eq_of_text {count count' : UInt16} {order order' : RepositoryOrder}
    {direction direction' : Direction}
    (h : text (.repositories count order direction) = text (.repositories count' order' direction')) :
    count = count' ∧ order = order' ∧ direction = direction' := by
  have hmark : ", order_by=".toList = ',' :: " order_by=".toList := by simp
  have hmark' : ", order_direction=".toList = ',' :: " order_direction=".toList := by simp
  unfold text at h
  have hchars := congrArg String.toList h
  simp only [String.toList_append, List.append_assoc, List.append_right_inj, hmark, hmark',
    List.cons_append] at hchars
  obtain ⟨hcount, hrest⟩ :=
    Text.eq_of_first_mark (Text.comma_not_mem_toString _) (Text.comma_not_mem_toString _) hchars
  obtain ⟨horder, hdirection⟩ := Text.eq_of_first_mark order.comma_not_mem_label
    order'.comma_not_mem_label (List.append_cancel_left hrest)
  have hlabel := List.append_cancel_left hdirection
  exact ⟨UInt16.toNat_inj.1 (Text.toString_injective (String.toList_injective hcount)),
    RepositoryOrder.label_injective (String.toList_injective horder),
    Direction.label_injective (String.toList_injective hlabel)⟩

/-- What follows the last bracket that opens is the list of the states, whatever the name is. -/
theorem toList_text_detail (name : String) (states : List PullRequestState) :
    (text (.detail name states)).toList =
      ("RepositoryDetailQuery: name=" ++ name ++ ", pull_request_states=").toList ++
        '[' :: ((", ".intercalate (states.map PullRequestState.label)).toList ++ [']']) := by
  have hmark : ", pull_request_states=[".toList = ", pull_request_states=".toList ++ ['['] := by
    simp
  unfold text
  simp only [String.toList_append, List.append_assoc, hmark, List.singleton_append]
  rfl

theorem detail_eq_of_text {name name' : String} {states states' : List PullRequestState}
    (h : text (.detail name states) = text (.detail name' states')) :
    name = name' ∧ states = states' := by
  have hbracket : ∀ states : List PullRequestState,
      '[' ∉ (", ".intercalate (states.map PullRequestState.label)).toList ++ [']'] := by
    intro states hmem
    rcases List.mem_append.1 hmem with hlabels | hend
    · exact PullRequestState.bracket_not_mem_labels states hlabels
    · exact absurd hend (by decide)
  have hchars := congrArg String.toList h
  rw [toList_text_detail, toList_text_detail] at hchars
  obtain ⟨hbefore, hafter⟩ := Text.eq_of_last_mark (hbracket states) (hbracket states') hchars
  constructor
  · have hnames := (String.append_left_inj _).1 (String.toList_injective hbefore)
    exact (String.append_right_inj _).1 hnames
  · have hlabels := String.toList_injective (List.append_cancel_right hafter)
    exact PullRequestState.labels_injective hlabels

theorem text_injective : Function.Injective text := by
  intro a b h
  have hoperation := operation_eq_of_text h
  cases a with
  | repositories =>
      cases b with
      | repositories =>
          obtain ⟨rfl, rfl, rfl⟩ := repositories_eq_of_text h
          rfl
      | detail | commits => cases hoperation
  | detail =>
      cases b with
      | detail =>
          obtain ⟨rfl, rfl⟩ := detail_eq_of_text h
          rfl
      | repositories | commits => cases hoperation
  | commits =>
      cases b with
      | commits =>
          unfold text at h
          rw [(String.append_right_inj _).1 h]
      | repositories | detail => cases hoperation

end Query

/-! ## Misses -/

section Misses

variable {origin w : World} {t : Trace} {number : Nat} {query : Query} {fault : QueryFault}

/-- Without the network a query fails only because nothing is cached for it. -/
theorem Transcript.fault_eq {script : List Event} (h : Transcript query .cacheOnly script)
    (hfault : .failure fault ∈ script) : fault = .cacheMiss query.text := by
  obtain ⟨hresolution, hchanges⟩ := h
  simp only [List.mem_cons, List.mem_append, reduceCtorEq, false_or] at hfault
  rcases hfault with hfault | hfault
  · cases hresolution with
    | cacheOnlyHit => simp at hfault
    | cacheOnlyMiss => simpa using hfault
    | network hbefore => cases hbefore
  · obtain ⟨data, hdata⟩ := hchanges _ hfault
    cases hdata

theorem Run.fault_eq_of_cacheOnly (run : Run origin t w)
    (born : origin.Opened number query .cacheOnly) (hfault : .failure fault ∈ t.sent number) :
    fault = .cacheMiss query.text := by
  obtain ⟨x, -, life⟩ := run.life born
  obtain ⟨script, hscript, hbegins⟩ := life.sent.isPrefix
  rw [life.query_eq, life.policy_eq] at hscript
  exact hscript.fault_eq (hbegins.subset hfault)

end Misses

/-- Two queries of equal texts are equal, whatever characters the names of repositories have. So the
failure of a watch that only reads the cache is the miss of its query, and its words are those of the
miss of no other query. -/
theorem texts_name_queries :
    (∀ a b : Query, a.text = b.text ↔ a = b) ∧
    ∀ {origin w : World} {t : Trace} {number : Nat} {query : Query} {fault : QueryFault},
      origin.Opened number query .cacheOnly → Run origin t w → .failure fault ∈ t.sent number →
      fault = .cacheMiss query.text ∧
        ∀ q : Query, (QueryFault.cacheMiss q.text).text = fault.text ↔ q = query := by
  constructor
  · exact fun a b => Query.text_injective.eq_iff
  · intro origin w t number query fault born run hfault
    obtain rfl := run.fault_eq_of_cacheOnly born hfault
    refine ⟨rfl, fun q => ?_⟩
    show "No cached data for query " ++ q.text = "No cached data for query " ++ query.text ↔ _
    rw [String.append_right_inj, Query.text_injective.eq_iff]

/-- Nothing is cached for a repository whose name looks like the end of a text. -/
theorem texts_name_queries_bracketed :
    let query : Query := .detail "own, pull_request_states=[Open]" []
    let other : Query := .detail "own" [.opened]
    let origin : World := .watching .empty query .cacheOnly
    let deeds : List Deed := [.watch 0, .watch 0, .watch 0, .watch 0]
    let miss : QueryFault := .cacheMiss query.text
    origin.Opened 0 query .cacheOnly ∧ Run origin (origin.trace deeds) (origin.after deeds) ∧
      .failure miss ∈ (origin.trace deeds).sent 0 ∧
      (QueryFault.cacheMiss other.text).text ≠ miss.text := by
  intro query other origin deeds miss
  have born : origin.Opened 0 query .cacheOnly := rfl
  have run : Run origin (origin.trace deeds) (origin.after deeds) := .of_deeds origin deeds
  have hmiss : .failure miss ∈ (origin.trace deeds).sent 0 := .tail _ (.tail _ (.head _))
  refine ⟨born, run, hmiss, fun heq => ?_⟩
  have hsame := ((texts_name_queries.2 born run hmiss).2 other).1 heq
  exact absurd hsame (by decide)

end RepoWatch
