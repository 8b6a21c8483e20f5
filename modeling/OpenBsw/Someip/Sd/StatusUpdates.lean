import OpenBsw.Someip.Sd.QueryManager

/-!
# Status updates reach the listeners

The queries of a service are found wherever they stand in the set, but the
descriptions of its event groups are updated only when its queries are the
first ones.  All calls are made if and only if that is the case or nothing is
to be updated, and no listener belongs to two of the queries.
-/

namespace OpenBsw.Someip.QueryManager

open ServiceDescription List

universe u

variable {Listener : Type u} {queries : List (ServiceQuery Listener)}
variable {query : ServiceQuery Listener}

/-! ## Registration -/

theorem lessThan_of_lt {lhs rhs : ServiceQuery Listener}
    (less : lhs.description.serviceId < rhs.description.serviceId) : lhs.lessThan rhs := by
  have different : lhs.description.serviceId ≠ rhs.description.serviceId := ne_of_lt less
  simp [ServiceQuery.lessThan, different, less]

theorem not_lessThan_of_lt {lhs rhs : ServiceQuery Listener}
    (greater : rhs.description.serviceId < lhs.description.serviceId) :
    lhs.lessThan rhs = false := by
  have different : lhs.description.serviceId ≠ rhs.description.serviceId := ne_of_gt greater
  have notLess : ¬ lhs.description.serviceId < rhs.description.serviceId := not_lt_of_gt greater
  simp [ServiceQuery.lessThan, different, notLess]

/-- The queries with smaller, equal and greater service ids. -/
theorem Ordered.split (ordered : Ordered queries) (serviceId : Nat) :
    ∃ front middle back, queries = front ++ middle ++ back ∧
      (∀ query ∈ front, query.description.serviceId < serviceId) ∧
      (∀ query ∈ middle, query.description.serviceId = serviceId) ∧
      ∀ query ∈ back, serviceId < query.description.serviceId := by
  induction queries with
  | nil => exact ⟨[], [], [], rfl, by simp, by simp, by simp⟩
  | cons query rest ih =>
    rcases pairwise_cons.mp ordered with ⟨first, ordered⟩
    rcases ih ordered with ⟨front, middle, back, rfl, less, equal, greater⟩
    rcases lt_trichotomy query.description.serviceId serviceId with before | here | behind
    · refine ⟨query :: front, middle, back, rfl, ?_, equal, greater⟩
      exact forall_mem_cons.mpr ⟨before, less⟩
    · have noFront : front = [] := by
        apply eq_nil_iff_forall_not_mem.mpr
        intro other member
        have bound := first other (by simp [member])
        exact absurd (less other member) (not_lt_of_ge (here ▸ bound))
      subst noFront
      refine ⟨[], query :: middle, back, rfl, by simp, ?_, greater⟩
      exact forall_mem_cons.mpr ⟨here, equal⟩
    · have noFront : front = [] := by
        apply eq_nil_iff_forall_not_mem.mpr
        intro other member
        have bound := first other (by simp [member])
        exact absurd (less other member) (not_lt_of_ge (behind.le.trans bound))
      have noMiddle : middle = [] := by
        apply eq_nil_iff_forall_not_mem.mpr
        intro other member
        have bound := first other (by simp [member])
        exact absurd (equal other member) (ne_of_gt (lt_of_lt_of_le behind bound))
      subst noFront noMiddle
      refine ⟨[], [], query :: back, rfl, by simp, by simp, ?_⟩
      exact forall_mem_cons.mpr ⟨behind, greater⟩

theorem Ordered.between {left right : List (ServiceQuery Listener)}
    (ordered : Ordered (left ++ right))
    (lower : ∀ other ∈ left, other.description.serviceId ≤ query.description.serviceId)
    (upper : ∀ other ∈ right, query.description.serviceId ≤ other.description.serviceId) :
    Ordered (left ++ query :: right) := by
  rcases pairwise_append.mp ordered with ⟨leftOrdered, rightOrdered, across⟩
  refine pairwise_append.mpr ⟨leftOrdered, pairwise_cons.mpr ⟨upper, rightOrdered⟩, ?_⟩
  intro first inLeft second member
  rcases mem_cons.mp member with rfl | inRight
  · exact lower first inLeft
  · exact across first inLeft second inRight

/-- The comparison by timestamps decides among queries of one service only. -/
theorem Ordered.insert (ordered : Ordered queries) (query : ServiceQuery Listener) :
    Ordered (FlatSet.insert (·.lessThan query) query.lessThan queries query.init) := by
  rcases ordered.split query.description.serviceId with
    ⟨front, middle, back, rfl, less, equal, greater⟩
  have position : front.length ≤ FlatSet.lowerBound (·.lessThan query) (front ++ middle ++ back) ∧
      FlatSet.lowerBound (·.lessThan query) (front ++ middle ++ back) ≤
        front.length + middle.length :=
    BinarySearch.partitionPoint_between
      (fun other member => lessThan_of_lt (less other member))
      (fun other member => not_lessThan_of_lt (greater other member))
  obtain ⟨skipped, place⟩ := Nat.exists_eq_add_of_le position.1
  have short : skipped ≤ middle.length := by omega
  have parts : front ++ middle ++ back =
      (front ++ middle.take skipped) ++ (middle.drop skipped ++ back) := by
    rw [append_assoc, append_assoc, ← append_assoc (middle.take skipped),
      take_append_drop]
  have size : (front ++ middle.take skipped).length = front.length + skipped := by
    rw [List.length_append, length_take, Nat.min_eq_left short]
  have inserted : Ordered ((front ++ middle.take skipped) ++
      query.init :: (middle.drop skipped ++ back)) := by
    refine Ordered.between (parts ▸ ordered) ?_ ?_
    · intro other member
      rcases mem_append.mp member with inFront | inMiddle
      · exact (less other inFront).le
      · exact (equal other (mem_of_mem_take inMiddle)).le
    · intro other member
      rcases mem_append.mp member with inMiddle | inBack
      · exact (equal other (mem_of_mem_drop inMiddle)).ge
      · exact (greater other inBack).le
  rw [FlatSet.insert, place]
  split
  next beyond =>
    have atEnd := List.getElem?_eq_none_iff.mp beyond
    rw [parts, List.length_append, size] at atEnd
    have nothing : middle.drop skipped ++ back = [] := eq_nil_of_length_eq_zero (by omega)
    rw [nothing] at inserted
    rw [parts, nothing, append_nil]
    exact inserted
  next =>
    split
    · rw [parts, ← size, FlatSet.insertIdx_append]
      exact inserted
    · exact ordered

theorem Ordered.registerQuery (ordered : Ordered queries) (capacity : Nat)
    (query : ServiceQuery Listener) : Ordered (registerQuery capacity queries query).2 := by
  rw [QueryManager.registerQuery]
  split
  · exact ordered
  · split
    · exact ordered
    · exact ordered.insert query

theorem Ordered.unregisterQuery (ordered : Ordered queries) (query : ServiceQuery Listener) :
    Ordered (unregisterQuery queries query).2 := by
  rw [QueryManager.unregisterQuery]
  split
  · exact ordered
  · exact ordered.sublist (eraseIdx_sublist ..)

/-! ## What is to be called -/

section

variable (service : ServiceDescription) (status : ServiceStatus)

/-- The listener of a query that matches a service. -/
def informed (query : ServiceQuery Listener) : Option Listener :=
  if isInstanceOf service query.description then query.listener else none

/-- The listeners of the queries that match a service. -/
def notified (queries : List (ServiceQuery Listener)) : List Listener :=
  queries.filterMap (informed service)

/-- The listeners of the queries without an event group that match a service. -/
def interested (queries : List (ServiceQuery Listener)) : List Listener :=
  notified service (queries.filter fun query => !containsEventGroup query.description)

/-- The event groups of a service. -/
def eventgroups (queries : List (ServiceQuery Listener)) : List ServiceDescription :=
  (queries.map (·.description)).filter fun desc => isEventgroupOfService desc service

/-- Each listener is told the status, and then the event groups. -/
def told (listeners : List Listener) (groups : List ServiceDescription) :
    List (ListenerCall Listener) :=
  listeners.flatMap fun listener =>
    .serviceStatusChanged listener service status ::
      groups.map (.updateEventgroupDescription listener · status)

/-- Each interested listener is told the status and the event groups of the service. -/
def expected (queries : List (ServiceQuery Listener)) : List (ListenerCall Listener) :=
  told service status (interested service queries) (eventgroups service queries)

/-- Exactly the expected calls are made. -/
def Informs [DecidableEq Listener] (queries : List (ServiceQuery Listener)) : Prop :=
  ∃ updated calls, updateQueries service status queries = some (updated, calls) ∧
    calls.Perm (expected service status queries)

end

variable {service : ServiceDescription} {status : ServiceStatus}

/-! ## The first loop -/

theorem description_visit [DecidableEq Listener] {left : ServiceQuery Listener}
    {listeners rest : List Listener}
    (visited : visit service status query listeners = some (left, rest)) :
    left.description = query.description := by
  simp only [visit] at visited
  split at visited
  · split at visited
    · obtain ⟨rfl, _⟩ := Prod.mk.inj (Option.some.inj visited)
      rfl
    · split at visited
      · cases visited
      · obtain ⟨rfl, _⟩ := Prod.mk.inj (Option.some.inj visited)
        rfl
  · split at visited
    · obtain ⟨rfl, _⟩ := Prod.mk.inj (Option.some.inj visited)
      rfl
    · obtain ⟨rfl, _⟩ := Prod.mk.inj (Option.some.inj visited)
      rfl

/-- A query without a listener to inform. -/
theorem visit_of_none [DecidableEq Listener] (nobody : informed service query = none)
    (status : ServiceStatus) (listeners : List Listener) :
    ∃ left, visit service status query listeners = some (left, listeners) := by
  simp only [informed] at nobody
  simp only [visit]
  split at nobody
  next matching =>
    rw [if_pos matching, nobody]
    exact ⟨_, rfl⟩
  next other =>
    rw [if_neg other]
    split <;> exact ⟨_, rfl⟩

/-- The listener of a query enters the list if it is not there yet. -/
theorem visit_of_some [DecidableEq Listener] {listener : Listener}
    (somebody : informed service query = some listener) (status : ServiceStatus)
    (listeners : List Listener) :
    if listener ∈ listeners then visit service status query listeners = none
    else ∃ left, visit service status query listeners = some (left, listener :: listeners) := by
  simp only [informed] at somebody
  simp only [visit]
  split at somebody
  next matching =>
    rw [if_pos matching, somebody]
    split
    next present => simp only [present, if_true]
    next absent =>
      simp only [absent, if_false]
      exact ⟨_, rfl⟩
  next => cases somebody

theorem notified_of_other (queries : List (ServiceQuery Listener))
    (others : ∀ query ∈ queries, query.description.serviceId ≠ service.serviceId) :
    notified service queries = [] := by
  apply filterMap_eq_nil_iff.mpr
  intro query member
  have different : isInstanceOf service query.description = false := by
    simp [isInstanceOf, (others query member).symm]
  simp [informed, different]

theorem collect_cons [DecidableEq Listener] {left : ServiceQuery Listener}
    {listeners next : List Listener} (rest : List (ServiceQuery Listener))
    (here : ¬ query.description.serviceId ≠ service.serviceId)
    (visited : visit service status query listeners = some (left, next)) :
    collect service status (query :: rest) listeners =
      (collect service status rest next).map fun result => (left :: result.1, result.2) := by
  rw [collect, if_neg here, visited]
  simp only
  cases collect service status rest next <;> rfl

/-- The first loop collects the listeners of all queries that match, each one once. -/
theorem collect_spec [DecidableEq Listener] (status : ServiceStatus) (ordered : Ordered queries)
    (above : ∀ query ∈ queries, service.serviceId ≤ query.description.serviceId)
    {listeners : List Listener} (nodup : listeners.Nodup) :
    if ((notified service queries).reverse ++ listeners).Nodup then
      ∃ updated, collect service status queries listeners =
          some (updated, (notified service queries).reverse ++ listeners) ∧
        updated.map (·.description) = queries.map (·.description)
    else collect service status queries listeners = none := by
  induction queries generalizing listeners with
  | nil =>
    simp only [notified, filterMap_nil, reverse_nil, nil_append, nodup, if_true]
    exact ⟨[], rfl, rfl⟩
  | cons query rest ih =>
    rcases pairwise_cons.mp ordered with ⟨first, ordered⟩
    have aboveRest : ∀ other ∈ rest, service.serviceId ≤ other.description.serviceId :=
      fun other member => above other (mem_cons_of_mem _ member)
    by_cases here : query.description.serviceId ≠ service.serviceId
    · have nobody : notified service (query :: rest) = [] := by
        apply notified_of_other
        intro other member
        have lower := above query mem_cons_self
        rcases mem_cons.mp member with rfl | behind
        · exact here
        · have further := first other behind
          omega
      rw [nobody]
      simp only [reverse_nil, nil_append, nodup, if_true, collect, here, ne_eq,
        not_false_eq_true]
      exact ⟨_, rfl, rfl⟩
    · cases informs : informed service query with
      | none =>
        have step : notified service (query :: rest) = notified service rest :=
          filterMap_cons_none informs
        obtain ⟨left, visited⟩ := visit_of_none informs status listeners
        have following := ih ordered aboveRest nodup
        rw [step, collect_cons rest here visited]
        split at following
        next unique =>
          obtain ⟨updated, found, same⟩ := following
          rw [if_pos unique, found]
          refine ⟨_, rfl, ?_⟩
          rw [map_cons, map_cons, same, description_visit visited]
        next repeated =>
          rw [if_neg repeated, following]
          rfl
      | some listener =>
        have step : notified service (query :: rest) =
            listener :: notified service rest := filterMap_cons_some informs
        have visited := visit_of_some informs status listeners
        rw [step, reverse_cons, append_assoc, singleton_append]
        by_cases present : listener ∈ listeners
        · rw [if_pos present] at visited
          rw [if_neg, collect, if_neg here, visited]
          intro unique
          exact (nodup_cons.mp (nodup_append.mp unique).2.1).1 present
        · rw [if_neg present] at visited
          obtain ⟨left, visited⟩ := visited
          have following := ih ordered aboveRest (nodup_cons.mpr ⟨present, nodup⟩)
          rw [collect_cons rest here visited]
          split at following
          next unique =>
            obtain ⟨updated, found, same⟩ := following
            rw [if_pos unique, found]
            refine ⟨_, rfl, ?_⟩
            rw [map_cons, map_cons, same, description_visit visited]
          next repeated =>
            rw [if_neg repeated, following]
            rfl

/-! ## The second loop -/

/-- The second loop depends on descriptions only. -/
theorem updateEventgroups_congr {others : List (ServiceQuery Listener)}
    (same : others.map (·.description) = queries.map (·.description))
    (status : ServiceStatus) (listener : Listener) :
    updateEventgroups service status listener others =
      updateEventgroups service status listener queries := by
  induction queries generalizing others with
  | nil =>
    obtain rfl := map_eq_nil_iff.mp same
    rfl
  | cons query rest ih =>
    rcases map_eq_cons_iff.mp same with ⟨other, behind, rfl, here, same⟩
    rw [updateEventgroups, updateEventgroups, here, ih same]

/-- From the queries of the service on, all event groups of the service are updated. -/
theorem updateEventgroups_of_first (ordered : Ordered queries)
    (above : ∀ query ∈ queries, service.serviceId ≤ query.description.serviceId)
    (status : ServiceStatus) (listener : Listener) :
    updateEventgroups service status listener queries =
      (eventgroups service queries).map (.updateEventgroupDescription listener · status) := by
  induction queries with
  | nil => rfl
  | cons query rest ih =>
    rcases pairwise_cons.mp ordered with ⟨first, ordered⟩
    have aboveRest : ∀ other ∈ rest, service.serviceId ≤ other.description.serviceId :=
      fun other member => above other (mem_cons_of_mem _ member)
    by_cases here : query.description.serviceId ≠ service.serviceId
    · have nothing : eventgroups service (query :: rest) = [] := by
        apply filter_eq_nil_iff.mpr
        intro desc member
        rcases mem_map.mp member with ⟨other, inside, rfl⟩
        have lower := above query mem_cons_self
        have different : other.description.serviceId ≠ service.serviceId := by
          rcases mem_cons.mp inside with rfl | behind
          · exact here
          · have further := first other behind
            omega
        simp [isEventgroupOfService, different]
      rw [nothing, updateEventgroups, if_pos here]
      rfl
    · have following := ih ordered aboveRest
      rw [updateEventgroups, if_neg here, following]
      by_cases group : isEventgroupOfService query.description service
      · simp [eventgroups, group]
      · simp [eventgroups, group]

/-- Behind a query of a smaller service id, no event group is updated. -/
theorem updateEventgroups_of_smaller (ordered : Ordered queries)
    (smaller : ∃ query ∈ queries, query.description.serviceId < service.serviceId)
    (status : ServiceStatus) (listener : Listener) :
    updateEventgroups service status listener queries = [] := by
  cases queries with
  | nil => rfl
  | cons query rest =>
    rcases pairwise_cons.mp ordered with ⟨first, _⟩
    rcases smaller with ⟨other, member, less⟩
    have different : query.description.serviceId ≠ service.serviceId := by
      rcases mem_cons.mp member with rfl | behind
      · exact ne_of_lt less
      · exact ne_of_lt (lt_of_le_of_lt (first other behind) less)
    rw [updateEventgroups, if_pos different]

/-! ## All calls -/

theorem interested_eq (service : ServiceDescription) (queries : List (ServiceQuery Listener)) :
    interested service queries =
      queries.filterMap fun query =>
        if !containsEventGroup query.description then informed service query else none :=
  filterMap_filter ..

theorem interested_of_plain (plain : containsEventGroup service = false)
    (queries : List (ServiceQuery Listener)) :
    interested service queries = notified service queries := by
  rw [interested_eq]
  apply filterMap_congr
  intro query _
  cases group : containsEventGroup query.description with
  | false => rfl
  | true =>
    have different : service.eventGroup ≠ query.description.eventGroup := by
      intro same
      rw [containsEventGroup, ← same] at group
      exact absurd (group.symm.trans plain) (by decide)
    simp [informed, isInstanceOf, different]

/-- No query without an event group matches the description of an event group. -/
theorem interested_of_grouped (grouped : containsEventGroup service)
    (queries : List (ServiceQuery Listener)) : interested service queries = [] := by
  rw [interested_eq]
  apply filterMap_eq_nil_iff.mpr
  intro query _
  cases group : containsEventGroup query.description with
  | true => rfl
  | false =>
    have different : service.eventGroup ≠ query.description.eventGroup := by
      intro same
      rw [containsEventGroup, ← same] at group
      exact absurd (group.symm.trans grouped) (by decide)
    simp [informed, isInstanceOf, different]

theorem length_told (listeners : List Listener) (groups : List ServiceDescription) :
    (told service status listeners groups).length = listeners.length * (groups.length + 1) := by
  induction listeners with
  | nil => simp [told]
  | cons listener rest ih =>
    have following : told service status (listener :: rest) groups =
        (.serviceStatusChanged listener service status ::
          groups.map (.updateEventgroupDescription listener · status)) ++
          told service status rest groups := rfl
    rw [following, List.length_append, ih, length_cons, length_map,
      length_cons, Nat.succ_mul, Nat.add_comm]

theorem told_perm {listeners others : List Listener} (perm : listeners.Perm others)
    (groups : List ServiceDescription) :
    (told service status listeners groups).Perm (told service status others groups) :=
  perm.flatMap_right _

/-- All event groups of the service are updated, or none of them. -/
theorem notify_eq (ordered : Ordered queries) (listeners : List Listener) :
    notify service status queries listeners =
      told service status listeners
        (if ∀ query ∈ queries, service.serviceId ≤ query.description.serviceId then
          eventgroups service queries else []) := by
  rw [notify, told]
  congr 1
  funext listener
  split
  next above => rw [updateEventgroups_of_first ordered above]
  next below =>
    have smaller : ∃ query ∈ queries, query.description.serviceId < service.serviceId := by
      push Not at below
      exact below
    rw [updateEventgroups_of_smaller ordered smaller]
    rfl

theorem notify_congr {others : List (ServiceQuery Listener)}
    (same : others.map (·.description) = queries.map (·.description)) (listeners : List Listener) :
    notify service status others listeners = notify service status queries listeners := by
  rw [notify, notify]
  congr 1
  funext listener
  rw [updateEventgroups_congr same]

theorem updateQueries_spec [DecidableEq Listener] (status : ServiceStatus)
    (ordered : Ordered queries) :
    if (notified service queries).Nodup then
      ∃ updated, updateQueries service status queries =
        some (updated, notify service status queries (notified service queries).reverse)
    else updateQueries service status queries = none := by
  rcases ordered.split service.serviceId with ⟨front, middle, back, rfl, less, equal, greater⟩
  have before : ∀ query ∈ front,
      decide (query.description.serviceId < service.serviceId) = true :=
    fun query member => decide_eq_true (less query member)
  have above : ∀ query ∈ middle ++ back, service.serviceId ≤ query.description.serviceId := by
    intro query member
    rcases mem_append.mp member with inMiddle | inBack
    · exact (equal query inMiddle).ge
    · exact (greater query inBack).le
  have dropped : (front ++ (middle ++ back)).dropWhile
      (fun query => decide (query.description.serviceId < service.serviceId)) =
        middle ++ back := by
    rw [dropWhile_append_of_pos before, dropWhile_eq_self_iff]
    intro nonempty
    simpa using above _ (getElem_mem nonempty)
  have taken : (front ++ (middle ++ back)).takeWhile
      (fun query => decide (query.description.serviceId < service.serviceId)) = front := by
    have joined := takeWhile_append_dropWhile
      (p := fun query : ServiceQuery Listener =>
        decide (query.description.serviceId < service.serviceId))
      (l := front ++ (middle ++ back))
    rw [dropped] at joined
    exact append_cancel_right joined
  have same : notified service (front ++ (middle ++ back)) = notified service (middle ++ back) := by
    have nobody : notified service front = [] :=
      notified_of_other front (fun query member => ne_of_lt (less query member))
    rw [notified, filterMap_append, ← notified, nobody, nil_append, notified]
  rw [append_assoc] at ordered ⊢
  have collected := collect_spec status (pairwise_append.mp ordered).2.1 above
    (nodup_nil : ([] : List Listener).Nodup)
  simp only [append_nil, nodup_reverse] at collected
  rw [same, updateQueries, dropped, taken]
  split at collected
  next unique =>
    obtain ⟨updated, found, descriptions⟩ := collected
    rw [if_pos unique, found]
    refine ⟨_, congrArg some (Prod.ext rfl ?_)⟩
    apply notify_congr
    rw [map_append, map_append, descriptions]
  next repeated =>
    rw [if_neg repeated, collected]

/-! ## When all calls are made -/

/-- The sets that registrations lead to, where queries may change in between but keep their
service ids. -/
inductive Registered (capacity : Nat) : List (ServiceQuery Listener) → Prop
  | empty : Registered capacity []
  | register {queries : List (ServiceQuery Listener)} (registered : Registered capacity queries)
      (query : ServiceQuery Listener) : Registered capacity (registerQuery capacity queries query).2
  | unregister {queries : List (ServiceQuery Listener)} (registered : Registered capacity queries)
      (query : ServiceQuery Listener) : Registered capacity (unregisterQuery queries query).2
  | change {queries others : List (ServiceQuery Listener)}
      (registered : Registered capacity queries)
      (same : others.map (·.description.serviceId) = queries.map (·.description.serviceId)) :
      Registered capacity others

theorem Registered.ordered {capacity : Nat} (registered : Registered capacity queries) :
    Ordered queries := by
  induction registered with
  | empty => exact List.Pairwise.nil
  | register _ query ih => exact ih.registerQuery capacity query
  | unregister _ query ih => exact ih.unregisterQuery query
  | change _ same ih =>
    rw [Ordered, ← pairwise_map (f := fun query : ServiceQuery Listener =>
      query.description.serviceId), same, pairwise_map]
    exact ih

/-- No listener belongs to two matching queries, no query has a smaller service id when event
groups are to be updated, and the description is the one of a service. -/
structure Reaches (service : ServiceDescription) (queries : List (ServiceQuery Listener)) :
    Prop where
  distinct : (notified service queries).Nodup
  first : notified service queries ≠ [] → eventgroups service queries ≠ [] →
    ∀ query ∈ queries, service.serviceId ≤ query.description.serviceId
  plain : containsEventGroup service → notified service queries = []

/-- A status change reaches its listeners exactly as far as the queries allow it. -/
theorem informs_iff [DecidableEq Listener] {capacity : Nat}
    (registered : Registered capacity queries) (service : ServiceDescription)
    (status : ServiceStatus) : Informs service status queries ↔ Reaches service queries := by
  have spec : if (notified service queries).Nodup then _ else _ :=
    updateQueries_spec status registered.ordered
  constructor
  · rintro ⟨updated, calls, result, perm⟩
    by_cases distinct : (notified service queries).Nodup
    · rw [if_pos distinct] at spec
      obtain ⟨_, found⟩ := spec
      obtain ⟨_, rfl⟩ := Prod.mk.inj (Option.some.inj (found.symm.trans result))
      have lengths := perm.length_eq
      rw [notify_eq registered.ordered, expected, length_told, length_told,
        length_reverse] at lengths
      cases grouped : containsEventGroup service with
      | true =>
        rw [interested_of_grouped grouped, length_nil, Nat.zero_mul] at lengths
        have nobody : notified service queries = [] := by
          rcases Nat.mul_eq_zero.mp lengths with zero | impossible
          · exact eq_nil_of_length_eq_zero zero
          · omega
        exact ⟨distinct, fun somebody => absurd nobody somebody, fun _ => nobody⟩
      | false =>
        rw [interested_of_plain grouped] at lengths
        refine ⟨distinct, ?_, fun impossible => absurd (grouped.symm.trans impossible)
          (by decide)⟩
        intro somebody groups
        by_contra smaller
        rw [if_neg smaller, length_nil] at lengths
        have positive := length_pos_of_ne_nil somebody
        have more := length_pos_of_ne_nil groups
        have equal := Nat.eq_of_mul_eq_mul_left positive lengths
        omega
    · rw [if_neg distinct, result] at spec
      cases spec
  · intro reaches
    rw [if_pos reaches.distinct] at spec
    obtain ⟨updated, found⟩ := spec
    refine ⟨updated, _, found, ?_⟩
    rw [notify_eq registered.ordered, expected]
    cases grouped : containsEventGroup service with
    | true =>
      rw [interested_of_grouped grouped, reaches.plain grouped]
      exact List.Perm.refl _
    | false =>
      rw [interested_of_plain grouped]
      have perm := reverse_perm (notified service queries)
      by_cases somebody : notified service queries = []
      · rw [somebody]
        exact List.Perm.refl _
      · by_cases groups : eventgroups service queries = []
        · rw [groups, ite_self]
          exact told_perm perm []
        · rw [if_pos (reaches.first somebody groups)]
          exact told_perm perm _

/-! ## Samples -/

def sampleService : ServiceDescription where
  minorVersion := 0
  ttl := 3
  serviceId := 2
  instanceId := 1
  eventGroup := allEventGroups
  ipAddress := [10, 0, 0, 1]
  port := 30490
  proto := 17
  majorVersion := 1

def sampleQuery : ServiceQuery Nat where
  description := sampleService
  listener := some 0

def sampleGroup : ServiceQuery Nat where
  description := { sampleService with eventGroup := 7 }
  listener := none

/-- A query of a smaller service id. -/
def otherQuery : ServiceQuery Nat where
  description := { sampleService with serviceId := 1 }
  listener := some 1

theorem registered_sample : Registered 8 [sampleGroup.init, sampleQuery.init] :=
  .register (.register .empty sampleQuery) sampleGroup

theorem informs_iff_sample :
    Informs sampleService .SERVICE_AVAILABLE [sampleGroup.init, sampleQuery.init] := by
  refine (informs_iff registered_sample sampleService .SERVICE_AVAILABLE).mpr ?_
  exact ⟨by decide, fun _ _ => by decide, by decide⟩

/-- Behind a query of another service, the event group is not updated. -/
theorem not_informs :
    ¬ ∀ (queries : List (ServiceQuery Nat)) (service : ServiceDescription)
      (status : ServiceStatus), Registered 8 queries → Informs service status queries := by
  intro informs
  have registered : Registered 8 [otherQuery.init, sampleGroup.init, sampleQuery.init] :=
    .register (.register (.register .empty sampleQuery) sampleGroup) otherQuery
  obtain ⟨updated, calls, result, perm⟩ :=
    informs _ sampleService .SERVICE_AVAILABLE registered
  have found : (updateQueries sampleService .SERVICE_AVAILABLE
      [otherQuery.init, sampleGroup.init, sampleQuery.init]).map (·.2.length) = some 1 := by decide
  rw [result, Option.map_some, perm.length_eq] at found
  exact absurd found (by decide)

end OpenBsw.Someip.QueryManager
