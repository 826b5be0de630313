import Depot.Query.Desk
/-!
# Unions are disjunctions

The groups of a query are alternatives, and a group holds of what all its entries hold of. A query
that is united with another one selects what either of them selects: it gets the groups of the other
in front of its current one. The other query stays as it is, and later filters enter the current
group only.
-/
namespace Depot
namespace Query

/-- Whether a query goes out with these groups. -/
def SerializesTo (q : Query) (groups : List Fields) : Prop :=
  Table.get? "query" q.payload = some (.list (groups.map .record))

/-- Whether groups select an item: all entries of one of them hold of it. -/
def Selects {ι : Type} (holds : String → Value → ι → Prop) (groups : List Fields) (item : ι) :
    Prop :=
  ∃ group ∈ groups, ∀ entry ∈ group, holds entry.1 entry.2 item

variable {q r a b c : Query} {groups groups' : List Fields}

theorem serializesTo_iff : q.SerializesTo groups ↔ groups = q.allGroups := by
  have records : Function.Injective (List.map Value.record) :=
    fun _ _ h => List.map_inj_right (fun _ _ h => Value.record.inj h) |>.mp h
  have sent : Table.get? "query" q.payload = some (.list (q.allGroups.map .record)) := rfl
  rw [SerializesTo, sent, Option.some.injEq, Value.list.injEq, eq_comm]
  exact ⟨fun h => records h, congrArg _⟩

/-- The last group of a query is the current one. -/
theorem serializesTo_append_singleton_iff {group : Fields} :
    q.SerializesTo (groups ++ [group]) ↔ groups = q.groups ∧ group = q.currentGroup := by
  rw [serializesTo_iff, allGroups, List.append_singleton_inj]

section Selection
variable {ι : Type} {holds : String → Value → ι → Prop} {item : ι}

theorem selects_append : Selects holds (groups ++ groups') item ↔
    Selects holds groups item ∨ Selects holds groups' item := by
  simp only [Selects, List.mem_append, or_and_right, exists_or]

theorem selects_perm (h : groups.Perm groups') :
    Selects holds groups item ↔ Selects holds groups' item := by
  simp only [Selects, h.mem_iff]

end Selection

theorem allGroups_union (a b : Query) :
    (a.union b).allGroups = a.groups ++ b.allGroups ++ [a.currentGroup] := rfl

/-- All that a union selects by is what the two queries select by. -/
theorem allGroups_union_perm (a b : Query) :
    (a.union b).allGroups.Perm (a.allGroups ++ b.allGroups) := by
  have sorted : a.allGroups ++ b.allGroups = a.groups ++ ([a.currentGroup] ++ b.allGroups) :=
    List.append_assoc ..
  rw [allGroups_union, List.append_assoc, sorted]
  exact List.perm_append_comm.append_left a.groups

theorem allGroups_union_union_perm (a b c : Query) :
    ((a.union b).union c).allGroups.Perm (a.union (b.union c)).allGroups := by
  have left : ((a.union b).union c).allGroups.Perm (a.allGroups ++ b.allGroups ++ c.allGroups) :=
    (allGroups_union_perm _ c).trans ((allGroups_union_perm a b).append_right _)
  have right : (a.union (b.union c)).allGroups.Perm
      (a.allGroups ++ (b.allGroups ++ c.allGroups)) :=
    (allGroups_union_perm a _).trans ((allGroups_union_perm b c).append_left _)
  rw [← List.append_assoc] at right
  exact left.trans right.symm

/-- The edits that set a filter. -/
def Edit.isFilter : Edit → Bool
  | .set .. => true
  | .range .. => true
  | _ => false

theorem groups_edit {e : Edit} (h : e.isFilter = true) (q : Query) :
    (q.edit e).groups = q.groups := by
  cases e with
  | set | range => rfl
  | append | limit | last | sort => cases h

end Query

namespace Desk
variable {d : Desk} {name a b c : String} {i j k : Nat} {s t u : Sheet}

/-- The desk on which the query of a sheet has become another one. -/
def become (d : Desk) (i : Nat) (s : Sheet) (q : Query) : Desk :=
  { d with sheets := d.sheets.set i { s with query := q } }

theorem find_eq_ok_iff : d.find name = .ok (i, s) ↔
    Table.get? name d.names = some i ∧ d.sheets[i]? = some s := by
  rw [find]
  cases hn : Table.get? name d.names with
  | none => simp
  | some ref =>
    cases hs : d.sheets[ref]? with
    | none =>
      simp only [Option.bind_some, hs, Option.map_none, reduceCtorEq, Option.some.injEq, false_iff]
      rintro ⟨rfl, h⟩
      rw [hs] at h
      cases h
    | some sheet =>
      simp only [Option.bind_some, hs, Option.map_some, Except.ok.injEq, Prod.mk.injEq,
        Option.some.injEq]
      constructor
      · rintro ⟨rfl, rfl⟩
        exact ⟨rfl, hs⟩
      · rintro ⟨rfl, h⟩
        exact ⟨rfl, Option.some.inj (hs.symm.trans h)⟩

theorem queryAt_of_find (h : d.find name = .ok (i, s)) : d.queryAt i = s.query := by
  rw [queryAt, (find_eq_ok_iff.mp h).2]
  rfl

theorem find_become (h : d.find a = .ok (i, s)) (q : Query) :
    (d.become i s q).find a = .ok (i, { s with query := q }) := by
  obtain ⟨named, there⟩ := find_eq_ok_iff.mp h
  have within : i < d.sheets.length := (List.getElem?_eq_some_iff.mp there).1
  exact find_eq_ok_iff.mpr ⟨named, List.getElem?_set_self within⟩

theorem find_become_ne (h : d.find b = .ok (j, t)) (other : j ≠ i) (s : Sheet) (q : Query) :
    (d.become i s q).find b = .ok (j, t) := by
  obtain ⟨named, there⟩ := find_eq_ok_iff.mp h
  exact find_eq_ok_iff.mpr ⟨named, (List.getElem?_set_ne (Ne.symm other)).trans there⟩

theorem queryAt_become_ne (other : k ≠ i) (s : Sheet) (q : Query) :
    (d.become i s q).queryAt k = d.queryAt k := by
  rw [queryAt, become, List.getElem?_set_ne (Ne.symm other)]
  rfl

theorem become_become (d : Desk) (i : Nat) (s : Sheet) (q q' : Query) :
    (d.become i s q).become i { s with query := q } q' = d.become i s q' := by
  simp only [become, List.set_set]

theorem play_union (ha : d.find a = .ok (i, s)) (hb : d.find b = .ok (j, t)) :
    d.play ⟨a, .union b⟩ = .ok (s.query.union t.query, d.become i s (s.query.union t.query)) := by
  simp only [play, ha, hb]
  rfl

theorem play_edit (ha : d.find a = .ok (i, s)) (e : Query.Edit) :
    d.play ⟨a, .edit e⟩ = .ok (s.query.edit e, d.become i s (s.query.edit e)) := by
  rw [play, ha]
  rfl

section Unions
variable (ha : d.find a = .ok (i, s)) (hb : d.find b = .ok (j, t)) (hc : d.find c = .ok (k, u))
include ha hb hc

/-- Two queries are united with the first one, one after the other. -/
theorem playAll_unions (other : k ≠ i) : d.playAll [⟨a, .union b⟩, ⟨a, .union c⟩] =
    (none, d.become i s ((s.query.union t.query).union u.query)) := by
  have second := play_union (find_become ha (s.query.union t.query)) (find_become_ne hc other ..)
  rw [become_become] at second
  rw [playAll, play_union ha hb]
  simp only
  rw [playAll, second]
  rfl

/-- The first query is united with a union of the other two. -/
theorem playAll_union_of_union (apart : i ≠ j) : d.playAll [⟨b, .union c⟩, ⟨a, .union b⟩] =
    (none, (d.become j t (t.query.union u.query)).become i s
      (s.query.union (t.query.union u.query))) := by
  have second := play_union (find_become_ne ha apart ..) (find_become hb (t.query.union u.query))
  rw [playAll, play_union hb hc]
  simp only
  rw [playAll, second]
  rfl

end Unions

/-- The moves that edit the query of a name. -/
def edits (a : String) (es : List Query.Edit) : List Move := es.map fun e => ⟨a, .edit e⟩

/-- Filters set on a query are all taken, and leave what is in front of its current group. -/
theorem playAll_filters (ha : d.find a = .ok (i, s)) {es : List Query.Edit}
    (filters : ∀ e ∈ es, e.isFilter = true) : ∃ d' s', d.playAll (edits a es) = (none, d') ∧
      d'.find a = .ok (i, s') ∧ s'.query.groups = s.query.groups ∧
      ∀ k, k ≠ i → d'.queryAt k = d.queryAt k := by
  induction es generalizing d s with
  | nil => exact ⟨d, s, rfl, ha, rfl, fun _ _ => rfl⟩
  | cons e rest ih =>
    obtain ⟨first, others⟩ := List.forall_mem_cons.mp filters
    obtain ⟨d', s', played, found, same, apart⟩ := ih (find_become ha (s.query.edit e)) others
    refine ⟨d', s', ?_, found, same.trans (Query.groups_edit first _), fun k other => ?_⟩
    · rw [edits, List.map_cons, playAll, play_edit ha]
      exact played
    · rw [apart k other, queryAt_become_ne other]

/--
A query that is united with another one, or with itself, goes out with its groups, but before the
last of them there are those of the other query; no other query changes, and filters that are set
later change its last group only. So it selects what either of the two selects. Of three queries it
makes no difference but for the order whether the first two are united first or the last two.
-/
theorem union_is_disjunction (d : Desk) {a b : String} {i j : Nat} {s t : Sheet}
    (ha : d.find a = .ok (i, s)) (hb : d.find b = .ok (j, t)) :
    ∃ d', d.play ⟨a, .union b⟩ = .ok (d'.queryAt i, d') ∧
      (∀ A x B, (d.queryAt i).SerializesTo (A ++ [x]) → (d.queryAt j).SerializesTo B →
        (d'.queryAt i).SerializesTo (A ++ B ++ [x])) ∧
      (∀ k, k ≠ i → d'.queryAt k = d.queryAt k) ∧
      (∀ es : List Query.Edit, (∀ e ∈ es, e.isFilter = true) →
        ∃ later, d'.playAll (edits a es) = (none, later) ∧
          (∀ k, k ≠ i → later.queryAt k = d'.queryAt k) ∧
          ∀ gs x, (d'.queryAt i).SerializesTo (gs ++ [x]) →
            ∃ x', (later.queryAt i).SerializesTo (gs ++ [x'])) ∧
      (∀ (ι : Type) (holds : String → Value → ι → Prop) (item : ι) (A B C : List Fields),
        (d.queryAt i).SerializesTo A → (d.queryAt j).SerializesTo B →
        (d'.queryAt i).SerializesTo C →
        (Query.Selects holds C item ↔ Query.Selects holds A item ∨ Query.Selects holds B item)) ∧
      ∀ c k u, d.find c = .ok (k, u) → i ≠ j → k ≠ i →
        ∃ first last, d.playAll [⟨a, .union b⟩, ⟨a, .union c⟩] = (none, first) ∧
          d.playAll [⟨b, .union c⟩, ⟨a, .union b⟩] = (none, last) ∧
          ∀ A B, (first.queryAt i).SerializesTo A → (last.queryAt i).SerializesTo B → A.Perm B := by
  have found := find_become ha (s.query.union t.query)
  have united := queryAt_of_find found
  rw [queryAt_of_find ha, queryAt_of_find hb]
  refine ⟨d.become i s (s.query.union t.query), ?_, ?_, fun k other => queryAt_become_ne other _ _,
    ?_, ?_, ?_⟩
  · rw [united]
    exact play_union ha hb
  · intro A x B hA hB
    obtain ⟨rfl, rfl⟩ := Query.serializesTo_append_singleton_iff.mp hA
    rw [Query.serializesTo_iff.mp hB, united]
    exact Query.serializesTo_iff.mpr rfl
  · intro es filters
    obtain ⟨later, s', played, found', same, apart⟩ := playAll_filters found filters
    refine ⟨later, played, apart, fun gs x hx => ⟨s'.query.currentGroup, ?_⟩⟩
    rw [united] at hx
    rw [queryAt_of_find found']
    exact Query.serializesTo_append_singleton_iff.mpr
      ⟨(Query.serializesTo_append_singleton_iff.mp hx).1.trans same.symm, rfl⟩
  · intro ι holds item A B C hA hB hC
    rw [united] at hC
    rw [Query.serializesTo_iff.mp hA, Query.serializesTo_iff.mp hB, Query.serializesTo_iff.mp hC,
      Query.selects_perm (Query.allGroups_union_perm _ _), Query.selects_append]
  · intro c k u hc apart other
    refine ⟨_, _, playAll_unions ha hb hc other, playAll_union_of_union ha hb hc apart,
      fun A B hA hB => ?_⟩
    rw [queryAt_of_find (find_become ha _)] at hA
    rw [queryAt_of_find (find_become (find_become_ne ha apart ..) _)] at hB
    rw [Query.serializesTo_iff.mp hA, Query.serializesTo_iff.mp hB]
    exact Query.allGroups_union_union_perm s.query t.query u.query

theorem union_is_disjunction_admins :
    let role (name : String) : Query := Query.empty.set .equals "role" (.text name)
    let d : Desk :=
      ⟨none, [⟨role "owner", none⟩, ⟨role "admin", none⟩], [("owners", 0), ("admins", 1)]⟩
    d.find "owners" = .ok (0, ⟨role "owner", none⟩) ∧
      d.find "admins" = .ok (1, ⟨role "admin", none⟩) ∧
      ∃ d', d.play ⟨"owners", .union "admins"⟩ = .ok (d'.queryAt 0, d') ∧
        (d'.queryAt 0).SerializesTo [[("role", .text "admin")], [("role", .text "owner")]] := by
  intro role d
  have owners : d.find "owners" = .ok (0, ⟨role "owner", none⟩) := rfl
  have admins : d.find "admins" = .ok (1, ⟨role "admin", none⟩) := rfl
  obtain ⟨d', played, united, -⟩ := union_is_disjunction d owners admins
  exact ⟨owners, admins, d', played,
    united [] [("role", .text "owner")] [[("role", .text "admin")]] rfl rfl⟩

end Desk
end Depot
