import Mathlib.Data.List.Dedup
import Depot.Proofs.Value.Members
import Depot.Query.Basic
/-!
# Filters of a group

What the current group of a query holds after any filters have been set one after
another: one entry for each wire key, with the value set last. The wire key stands
for a field and a comparator, except that an equality can spell out another
comparison in the name of its field.
-/
namespace Depot

namespace Comparator

theorem operator_injective {c c' : Comparator} (h : c.operator = c'.operator) : c = c' := by
  cases c <;> cases c' <;> first | rfl | simp [operator] at h

theorem mark_notMem_operator (c : Comparator) : '?' ∉ c.operator.toList := by
  cases c <;> decide

end Comparator

theorem filterKey_equals (field : String) : filterKey field .equals = field := rfl

theorem filterKey_of_ne {c : Comparator} (h : c ≠ .equals) (field : String) :
    filterKey field c = field ++ "?" ++ c.operator := by
  cases c <;> first | exact absurd rfl h | rfl

/-- What stands behind the last mark is the operator. -/
theorem filterKey_inj_of_ne {c c' : Comparator} (h : c ≠ .equals) (h' : c' ≠ .equals)
    {field field' : String} (same : filterKey field c = filterKey field' c') :
    field = field' ∧ c = c' := by
  have behind (c : Comparator) (field : String) :
      (field ++ "?" ++ c.operator).toList.reverse.takeWhile (· ≠ '?') =
        c.operator.toList.reverse := by
    have unmarked : ∀ x ∈ c.operator.toList.reverse, decide (x ≠ '?') = true := by
      intro x hx
      exact decide_eq_true fun mark => c.mark_notMem_operator (mark ▸ List.mem_reverse.mp hx)
    have parts : (field ++ "?" ++ c.operator).toList.reverse =
        c.operator.toList.reverse ++ '?' :: field.toList.reverse := by simp
    rw [parts, List.takeWhile_append_of_pos unmarked, List.takeWhile_cons_of_neg (by simp),
      List.append_nil]
  rw [filterKey_of_ne h, filterKey_of_ne h'] at same
  have operators : c.operator = c'.operator := by
    rw [← String.toList_inj, ← List.reverse_inj, ← behind c field, ← behind c' field', same]
  rw [operators] at same
  refine ⟨?_, Comparator.operator_injective operators⟩
  have texts := congrArg String.toList same
  simpa [String.toList_inj] using texts

/-- A filter of a group: how a field compares with a value. -/
structure Filter where
  comparator : Comparator
  field : String
  value : Value

namespace Filter

def key (f : Filter) : String := filterKey f.field f.comparator

/-- What a filter is about. -/
def subject (f : Filter) : String × Comparator := (f.field, f.comparator)

/-- An equality that spells out another comparison in the name of its field. -/
def Spells (f g : Filter) : Prop :=
  f.comparator = .equals ∧ g.comparator ≠ .equals ∧ f.field = g.field ++ "?" ++ g.comparator.operator

theorem key_eq_iff (f g : Filter) :
    f.key = g.key ↔ f.subject = g.subject ∨ f.Spells g ∨ g.Spells f := by
  obtain ⟨c, field, value⟩ := f
  obtain ⟨c', field', value'⟩ := g
  simp only [key, subject, Spells, Prod.mk.injEq]
  by_cases h : c = .equals <;> by_cases h' : c' = .equals
  · simp [h, h', filterKey_equals]
  · simp [h, h', filterKey_equals, filterKey_of_ne h', Ne.symm h']
  · simp [h, h', filterKey_equals, filterKey_of_ne h, eq_comm]
  · simp only [h, h', false_and, or_false]
    constructor
    · exact filterKey_inj_of_ne h h'
    · rintro ⟨rfl, rfl⟩
      rfl

end Filter

namespace Query

/-- The query after some filters have been set, one after another. -/
def setAll (q : Query) (fs : List Filter) : Query :=
  fs.foldl (fun q f => q.set f.comparator f.field f.value) q

/-- The value that was set last under a wire key. -/
def lastSet? (key : String) (fs : List Filter) : Option Value :=
  (fs.filter (·.key = key)).getLast?.map Filter.value

variable (fs : List Filter)

theorem setAll_append_singleton (q : Query) (f : Filter) :
    q.setAll (fs ++ [f]) = (q.setAll fs).set f.comparator f.field f.value := by
  simp [setAll]

theorem current_setAll_append_singleton (q : Query) (f : Filter) :
    (q.setAll (fs ++ [f])).current = (q.setAll fs).current.put f.key f.value := by
  rw [setAll_append_singleton]
  rfl

theorem lastSet?_append_singleton (key : String) (f : Filter) :
    lastSet? key (fs ++ [f]) = if f.key = key then some f.value else lastSet? key fs := by
  by_cases h : f.key = key <;> simp [lastSet?, List.filter_append, h]

theorem lastSet?_eq_none_iff {key : String} : lastSet? key fs = none ↔ ∀ f ∈ fs, f.key ≠ key := by
  simp [lastSet?]

theorem nodup_keys_current_setAll : (empty.setAll fs).current.keys.Nodup := by
  induction fs using List.reverseRecOn with
  | nil => exact List.nodup_nil
  | append_singleton fs f ih =>
    rw [current_setAll_append_singleton]
    exact Table.nodup_keys_put ih

theorem get?_current_setAll (key : String) :
    (empty.setAll fs).current.get? key = lastSet? key fs := by
  induction fs using List.reverseRecOn with
  | nil => rfl
  | append_singleton fs f ih =>
    rw [current_setAll_append_singleton, lastSet?_append_singleton]
    by_cases h : f.key = key
    · rw [if_pos h, h, Table.get?_put_self]
    · rw [if_neg h, Table.get?_put_ne (Ne.symm h), ih]

theorem groups_setAll (q : Query) : (q.setAll fs).groups = q.groups := by
  induction fs using List.reverseRecOn with
  | nil => rfl
  | append_singleton fs f ih =>
    rw [setAll_append_singleton]
    exact ih

/-- The current group after some filters have been set on a fresh query. -/
def groupOf (fs : List Filter) : Fields := (empty.setAll fs).currentGroup

theorem nodup_keys_groupOf : (Table.keys (groupOf fs)).Nodup ∧
    ∀ key, Table.get? key (groupOf fs) =
      ((empty.setAll fs).current.erase Value.prototypeKey).get? key := by
  apply Member.ofEntries_of_nodup
  exact (List.filter_sublist.map Prod.fst).nodup (nodup_keys_current_setAll fs)

theorem get?_groupOf {key : String} (h : key ≠ Value.prototypeKey) :
    Table.get? key (groupOf fs) = lastSet? key fs := by
  rw [(nodup_keys_groupOf fs).2 key, Table.get?_erase_ne h, get?_current_setAll]

/-- The group as it goes out is the only one of a fresh query. -/
theorem payload_setAll :
    Table.get? "query" (empty.setAll fs).payload = some (.list [.record (groupOf fs)]) := by
  have alone : (empty.setAll fs).allGroups = [groupOf fs] := by
    rw [allGroups, groups_setAll]
    rfl
  simp [payload, Table.get?, alone]

theorem exists_of_mem_groupOf {key : String} (h : key ∈ Table.keys (groupOf fs)) :
    ∃ f ∈ fs, f.key = key := by
  have present : Table.get? key (groupOf fs) ≠ none := fun none_there =>
    Table.get?_eq_none_iff.mp none_there h
  have kept : key ≠ Value.prototypeKey := by
    rintro rfl
    exact present (((nodup_keys_groupOf fs).2 _).trans (Table.get?_erase_self ..))
  rw [get?_groupOf fs kept, Ne, lastSet?_eq_none_iff] at present
  simpa using present

/-- Setting a filter leaves what is at every other wire key. -/
theorem get?_groupOf_append_singleton {f : Filter} {key : String} (h : key ≠ f.key) :
    Table.get? key (groupOf (fs ++ [f])) = Table.get? key (groupOf fs) := by
  by_cases kept : key = Value.prototypeKey
  · subst kept
    rw [(nodup_keys_groupOf _).2, (nodup_keys_groupOf _).2, Table.get?_erase_self,
      Table.get?_erase_self]
  · rw [get?_groupOf _ kept, get?_groupOf _ kept, lastSet?_append_singleton, if_neg (Ne.symm h)]

/-- A group has one entry for each field and comparator of these filters, with the value that was
set last for them. -/
def HasEntryPerSubject (fs : List Filter) (group : Fields) : Prop :=
  group.length = (fs.map Filter.subject).dedup.length ∧
  ∀ f ∈ fs, Table.get? f.key group =
    (fs.filter (·.subject = f.subject)).getLast?.map Filter.value

variable {fs}

theorem mem_keys_groupOf {f : Filter} (hf : f ∈ fs) (kept : f.key ≠ Value.prototypeKey) :
    f.key ∈ Table.keys (groupOf fs) := by
  by_contra absent
  rw [← Table.get?_eq_none_iff, get?_groupOf fs kept, lastSet?_eq_none_iff] at absent
  exact absent f hf rfl

/-- If different subjects have different wire keys, there are as many entries as subjects. -/
theorem keys_groupOf_perm (kept : ∀ f ∈ fs, f.key ≠ Value.prototypeKey)
    (apart : ∀ f ∈ fs, ∀ g ∈ fs, f.key = g.key → f.subject = g.subject) :
    (Table.keys (groupOf fs)).Perm
      ((fs.map Filter.subject).dedup.map fun s => filterKey s.1 s.2) := by
  have nodup : ((fs.map Filter.subject).dedup.map fun s => filterKey s.1 s.2).Nodup := by
    refine (List.nodup_dedup _).map_on fun s hs s' hs' h => ?_
    obtain ⟨f, hf, rfl⟩ := List.mem_map.mp (List.mem_dedup.mp hs)
    obtain ⟨g, hg, rfl⟩ := List.mem_map.mp (List.mem_dedup.mp hs')
    exact apart f hf g hg h
  rw [List.perm_ext_iff_of_nodup (nodup_keys_groupOf fs).1 nodup]
  intro key
  constructor
  · intro h
    obtain ⟨f, hf, rfl⟩ := exists_of_mem_groupOf fs h
    exact List.mem_map.mpr ⟨f.subject, List.mem_dedup.mpr (List.mem_map_of_mem hf), rfl⟩
  · intro h
    obtain ⟨s, hs, rfl⟩ := List.mem_map.mp h
    obtain ⟨f, hf, rfl⟩ := List.mem_map.mp (List.mem_dedup.mp hs)
    exact mem_keys_groupOf hf (kept f hf)

theorem hasEntryPerSubject (kept : ∀ f ∈ fs, f.key ≠ Value.prototypeKey)
    (plain : ∀ f ∈ fs, ∀ g ∈ fs, ¬ f.Spells g) : HasEntryPerSubject fs (groupOf fs) := by
  have same {f g : Filter} (hf : f ∈ fs) (hg : g ∈ fs) : f.key = g.key ↔ f.subject = g.subject := by
    rw [Filter.key_eq_iff]
    simp [plain f hf g hg, plain g hg f hf]
  refine ⟨?_, fun f hf => ?_⟩
  · have keys := keys_groupOf_perm kept fun f hf g hg => (same hf hg).mp
    simpa [Table.keys] using keys.length_eq
  · have others : fs.filter (·.key = f.key) = fs.filter (·.subject = f.subject) :=
      List.filter_congr fun g hg => by simp [same hg hf]
    rw [get?_groupOf fs (kept f hf), lastSet?, others]

/--
The only group of a fresh query has one entry for each wire key under which a filter was set, with
the value that was set last; setting a filter leaves the entries of all other keys. Filters of
different fields or comparators share a wire key only if one spells out the other, so without such
filters there is one entry for each field and comparator. The key that assignment does not keep is
left aside.
-/
theorem entry_per_wire_key (fs : List Filter) :
    Table.get? "query" (empty.setAll fs).payload = some (.list [.record (groupOf fs)]) ∧
    (Table.keys (groupOf fs)).Nodup ∧
    (∀ key ∈ Table.keys (groupOf fs), ∃ f ∈ fs, f.key = key) ∧
    (∀ key, key ≠ Value.prototypeKey → Table.get? key (groupOf fs) = lastSet? key fs) ∧
    (∀ f : Filter, ∀ key, key ≠ f.key →
      Table.get? key (groupOf (fs ++ [f])) = Table.get? key (groupOf fs)) ∧
    (∀ f g : Filter, f.key = g.key ↔ f.subject = g.subject ∨ f.Spells g ∨ g.Spells f) ∧
    ((∀ f ∈ fs, f.key ≠ Value.prototypeKey) → (∀ f ∈ fs, ∀ g ∈ fs, ¬ f.Spells g) →
      HasEntryPerSubject fs (groupOf fs)) :=
  ⟨payload_setAll fs, (nodup_keys_groupOf fs).1, fun _ => exists_of_mem_groupOf fs,
    fun _ => get?_groupOf fs, fun _ _ => get?_groupOf_append_singleton fs, Filter.key_eq_iff,
    hasEntryPerSubject⟩

/-- Two filters on one field, of which the first is set again. -/
def setAgain : List Filter :=
  [⟨.notEquals, "tag", .text "a"⟩, ⟨.equals, "tag", .text "b"⟩, ⟨.notEquals, "tag", .text "c"⟩]

theorem entry_per_wire_key_setAgain :
    (∀ f ∈ setAgain, f.key ≠ Value.prototypeKey) ∧ (∀ f ∈ setAgain, ∀ g ∈ setAgain, ¬ f.Spells g) ∧
    Table.get? "tag?ne" (groupOf setAgain) = some (.text "c") ∧
    HasEntryPerSubject setAgain (groupOf setAgain) := by
  have kept : ∀ f ∈ setAgain, f.key ≠ Value.prototypeKey := by
    simp [setAgain, Filter.key, filterKey, Comparator.operator, Value.prototypeKey]
  have plain : ∀ f ∈ setAgain, ∀ g ∈ setAgain, ¬ f.Spells g := by
    simp [setAgain, Filter.Spells, Comparator.operator]
  obtain ⟨-, -, -, last, -, -, each⟩ := entry_per_wire_key setAgain
  exact ⟨kept, plain, last "tag?ne" (by decide), each kept plain⟩

/-- An equality that spells out the other filter, and that filter. -/
def spelledOut : List Filter := [⟨.equals, "tag?ne", .text "a"⟩, ⟨.notEquals, "tag", .text "b"⟩]

/-- Two filters of different fields and comparators can leave one entry. -/
theorem not_hasEntryPerSubject_spelledOut :
    ¬ HasEntryPerSubject spelledOut (groupOf spelledOut) := by
  rintro ⟨count, -⟩
  exact absurd count (by decide)

end Query
end Depot
