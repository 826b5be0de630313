import Mathlib.Data.List.Nodup
import Mathlib.Data.Set.Insert
import Depot.Proofs.Url.Address
import Depot.Report.Metrics
/-!
# Series apart

A series is a name with a set of labels, whatever their order. Metrics file what is measured under
the key of its series, so they keep series apart where keys do. A key separates its parts by
characters that the parts themselves may contain, and it lists the labels in an order in which names
can be equal without being the same; where neither happens, a key can be read back.
-/
namespace Depot

namespace Table
variable {α : Type} {t t' : Table α}

/-- Tables with the same entries have them in different orders at most. -/
theorem perm_iff (h : t.keys.Nodup) (h' : t'.keys.Nodup) :
    t.Perm t' ↔ ∀ k, t.get? k = t'.get? k := by
  rw [List.perm_ext_iff_of_nodup (List.Nodup.of_map Prod.fst h) (List.Nodup.of_map Prod.fst h')]
  constructor
  · intro same k
    apply Option.ext
    intro v
    rw [get?_eq_some_iff h, get?_eq_some_iff h']
    exact same (k, v)
  · intro same ⟨k, v⟩
    rw [← get?_eq_some_iff h, ← get?_eq_some_iff h', same k]

end Table

/-- A name, and labels that are all different. -/
structure Series where
  name : String
  labels : Labels
  nodup : (Table.keys labels).Nodup

namespace Series

/-- Whether series have one name and one set of labels. -/
def IsSame (s s' : Series) : Prop :=
  s.name = s'.name ∧ ∀ k, Table.get? k s.labels = Table.get? k s'.labels

theorem isSame_iff {s s' : Series} : s.IsSame s' ↔ s.name = s'.name ∧ s.labels.Perm s'.labels :=
  and_congr_right fun _ => (Table.perm_iff s.nodup s'.nodup).symm

instance (s s' : Series) : Decidable (s.IsSame s') := decidable_of_iff _ isSame_iff.symm

def key (s : Series) : String := seriesKey s.name s.labels

/-- Whether a label may stand before another in a key. -/
def precedes (a b : String × String) : Bool := Text.Collation.le a.1 b.1

theorem precedes_total (a b : String × String) : precedes a b ∨ precedes b a := by
  simpa [precedes] using Text.Collation.le_total a.1 b.1

theorem precedes_trans (a b c : String × String) (h : precedes a b) (h' : precedes b c) :
    precedes a c := Text.Collation.le_trans h h'

/-- The labels as a key lists them. -/
def sorted (s : Series) : Labels := Sorting.sorted precedes s.labels

theorem sorted_perm (s : Series) : s.sorted.Perm s.labels := Sorting.sorted_perm _ _

/-- A label as a key writes it. -/
def pair (label : String × String) : List Char := label.1.toList ++ '=' :: label.2.toList

theorem toList_key (s : Series) : s.key.toList = s.name.toList ++
    if s.sorted = [] then [] else '\x7B' :: ([','].intercalate (s.sorted.map pair) ++ ['\x7D']) := by
  let pairs := s.sorted.map fun label => label.1 ++ "=" ++ label.2
  have key : s.key = if pairs.isEmpty then s.name
      else s.name ++ "\x7B" ++ ",".intercalate pairs ++ "\x7D" := rfl
  have written : pairs.map String.toList = s.sorted.map pair := by
    simp [pairs, pair, Function.comp_def]
  have none_iff : pairs.isEmpty = true ↔ s.sorted = [] := by simp [pairs]
  rw [key]
  by_cases none : s.sorted = []
  · rw [if_pos (none_iff.mpr none), if_pos none, List.append_nil]
  · rw [if_neg (none_iff.not.mpr none), if_neg none, ← written]
    simp [String.toList_intercalate]

/-- Whether no part of a series contains what separates it from the next, and the order of the labels
is one of their names. -/
structure IsPlain (s : Series) : Prop where
  name : '\x7B' ∉ s.name.toList
  labels : ∀ label ∈ s.labels, '=' ∉ label.1.toList ∧ ',' ∉ label.1.toList ∧ ',' ∉ label.2.toList
  order : ∀ k ∈ Table.keys s.labels, ∀ k' ∈ Table.keys s.labels,
    Text.Collation.le k k' → Text.Collation.le k' k → k = k'

/-! ## Reading keys back -/

/-- The name of a series and its labels, read from its key: the name ends at the first brace, the
labels are cut at the commas and each of them at its first equals sign. -/
def read (key : List Char) : List Char × List (List Char × Option (List Char)) :=
  match Url.cut '\x7B' key with
  | (name, none) => (name, [])
  | (name, some rest) => (name, (rest.dropLast.splitOn ',').map (Url.cut '='))

theorem read_key {s : Series} (plain : s.IsPlain) : read s.key.toList =
    (s.name.toList, s.sorted.map fun label => (label.1.toList, some label.2.toList)) := by
  have label_plain : ∀ label ∈ s.sorted,
      '=' ∉ label.1.toList ∧ ',' ∉ label.1.toList ∧ ',' ∉ label.2.toList :=
    fun label mem => plain.labels label (s.sorted_perm.mem_iff.mp mem)
  rw [toList_key]
  by_cases none : s.sorted = []
  · rw [if_pos none, List.append_nil, read, Url.cut_eq_self plain.name, none]
    rfl
  · have unbroken : ∀ text ∈ s.sorted.map pair, ',' ∉ text := by
      intro text written
      obtain ⟨label, mem, rfl⟩ := List.mem_map.mp written
      obtain ⟨-, front, back⟩ := label_plain label mem
      simp [pair, front, back]
    have some : s.sorted.map pair ≠ [] := by simpa using none
    rw [if_neg none, read, Url.cut_append plain.name]
    simp only [List.dropLast_concat, List.splitOn_intercalate ',' unbroken some, List.map_map]
    congr 1
    apply List.map_congr_left
    intro label mem
    exact Url.cut_append (label_plain label mem).1 _

theorem key_eq_of_isSame {s s' : Series} (plain : s.IsPlain) (same : s'.IsSame s) :
    s'.key = s.key := by
  obtain ⟨names, shuffled⟩ := isSame_iff.mp same
  have sorted : s'.sorted = s.sorted := by
    apply Sorting.sorted_eq_of_perm precedes_total precedes_trans
      (shuffled.trans s.sorted_perm.symm)
      (Sorting.sorted_pairwise precedes_total precedes_trans s.labels)
    intro a ha b hb first second
    have ha := s.sorted_perm.mem_iff.mp ha
    have hb := s.sorted_perm.mem_iff.mp hb
    have names := plain.order a.1 (List.mem_map_of_mem ha) b.1 (List.mem_map_of_mem hb) first second
    exact List.inj_on_of_nodup_map s.nodup ha hb names
  rw [← String.toList_inj, toList_key, toList_key, names, sorted]

theorem isSame_of_key_eq {s s' : Series} (plain : s.IsPlain) (plain' : s'.IsPlain)
    (keys : s'.key = s.key) : s'.IsSame s := by
  have parts := read_key plain'
  rw [keys, read_key plain] at parts
  obtain ⟨names, labels⟩ := Prod.mk.inj parts
  have inj : Function.Injective fun label : String × String =>
      (label.1.toList, some label.2.toList) := by
    intro a b h
    simpa [Prod.ext_iff, String.toList_inj] using h
  have sorted : s.sorted = s'.sorted := List.map_injective_iff.mpr inj labels
  refine isSame_iff.mpr ⟨(String.toList_inj.mp names).symm, ?_⟩
  exact s'.sorted_perm.symm.trans (sorted ▸ s.sorted_perm)

/-- A key can be read back where the parts of its series do not contain what separates them. -/
theorem key_eq_iff {s s' : Series} (plain : s.IsPlain) (plain' : s'.IsPlain) :
    s'.key = s.key ↔ s'.IsSame s :=
  ⟨isSame_of_key_eq plain plain', key_eq_of_isSame plain⟩

end Series

/-! ## What is measured -/

/-- A call by which something is measured. -/
inductive Entry (α : Type) where
  | add (s : Series) (amount : α)
  | time (s : Series) (sample : Float)

namespace Entry
variable {α : Type}

def series : Entry α → Series
  | .add s _ => s
  | .time s _ => s

def amount? : Entry α → Option α
  | .add _ amount => some amount
  | .time .. => none

def sample? : Entry α → Option Float
  | .add .. => none
  | .time _ sample => some sample

/-- The entries of a series, in their order. -/
def ofSeries (s : Series) (es : List (Entry α)) : List (Entry α) :=
  es.filter fun e => e.series.IsSame s

end Entry

namespace Metrics
variable {α : Type} [Add α] [OfNat α 0]

def enter (m : Metrics α) : Entry α → Metrics α
  | .add s amount => m.increment s.name amount s.labels
  | .time s sample => m.record s.name sample s.labels

/-- The metrics after all of these calls. -/
def ofEntries (es : List (Entry α)) : Metrics α := es.foldl enter .empty

variable (m : Metrics α) (es : List (Entry α)) (key : String)

theorem totalAt_foldl_enter : (es.foldl enter m).totalAt key =
    ((es.filter fun e => e.series.key = key).filterMap Entry.amount?).foldl (· + ·)
      (m.totalAt key) := by
  induction es generalizing m with
  | nil => rfl
  | cons e rest ih =>
    rw [List.foldl_cons, ih]
    by_cases same : e.series.key = key
    · rw [List.filter_cons_of_pos (by simpa using same)]
      subst same
      cases e with
      | add s amount =>
        rw [List.filterMap_cons_some (f := Entry.amount?) rfl, List.foldl_cons]
        simp [enter, increment, totalAt, Entry.series, Series.key]
      | time s sample => rfl
    · rw [List.filter_cons_of_neg (by simpa using same)]
      cases e with
      | add s amount =>
        have other : key ≠ seriesKey s.name s.labels := Ne.symm same
        simp [enter, increment, totalAt, Table.get?_put_ne other]
      | time s sample => rfl

theorem samplesAt_foldl_enter : (es.foldl enter m).samplesAt key =
    m.samplesAt key ++ (es.filter fun e => e.series.key = key).filterMap Entry.sample? := by
  induction es generalizing m with
  | nil => simp
  | cons e rest ih =>
    rw [List.foldl_cons, ih]
    by_cases same : e.series.key = key
    · rw [List.filter_cons_of_pos (by simpa using same)]
      subst same
      cases e with
      | add s amount => rfl
      | time s sample =>
        rw [List.filterMap_cons_some (f := Entry.sample?) rfl]
        simp [enter, record, samplesAt, Entry.series, Series.key]
    · rw [List.filter_cons_of_neg (by simpa using same)]
      cases e with
      | add s amount => rfl
      | time s sample =>
        have other : key ≠ seriesKey s.name s.labels := Ne.symm same
        simp [enter, record, samplesAt, Table.get?_put_ne other]

theorem counter_ofEntries (s : Series) : (ofEntries es).counter s.name s.labels =
    ((es.filter fun e => e.series.key = s.key).filterMap Entry.amount?).foldl (· + ·) 0 :=
  totalAt_foldl_enter .empty es s.key

theorem timings_ofEntries (s : Series) : (ofEntries es).timings s.name s.labels =
    (es.filter fun e => e.series.key = s.key).filterMap Entry.sample? :=
  samplesAt_foldl_enter .empty es s.key

end Metrics

/-- Whether metrics keep series apart: whatever is measured of them, the total of each is the sum of
what was added to it and its samples are those taken of it, in their order, and what is measured of
another one changes neither. -/
structure KeepsApart (α : Type) [Add α] [OfNat α 0] (S : Set Series) : Prop where
  total : ∀ es : List (Entry α), (∀ e ∈ es, e.series ∈ S) → ∀ s ∈ S,
    (Metrics.ofEntries es).counter s.name s.labels =
      ((Entry.ofSeries s es).filterMap Entry.amount?).foldl (· + ·) 0
  samples : ∀ es : List (Entry α), (∀ e ∈ es, e.series ∈ S) → ∀ s ∈ S,
    (Metrics.ofEntries es).timings s.name s.labels =
      (Entry.ofSeries s es).filterMap Entry.sample?
  others : ∀ es : List (Entry α), (∀ e ∈ es, e.series ∈ S) → ∀ e : Entry α, e.series ∈ S →
    ∀ s ∈ S, ¬ e.series.IsSame s →
      (Metrics.ofEntries (es ++ [e])).counter s.name s.labels =
          (Metrics.ofEntries es).counter s.name s.labels ∧
        (Metrics.ofEntries (es ++ [e])).timings s.name s.labels =
          (Metrics.ofEntries es).timings s.name s.labels

section Apart
variable {α : Type} [Add α] [OfNat α 0] {S : Set Series}

theorem keepsApart_of_keys (h : ∀ s ∈ S, ∀ s' ∈ S, s'.key = s.key ↔ s'.IsSame s) :
    KeepsApart α S := by
  have own {es : List (Entry α)} (within : ∀ e ∈ es, e.series ∈ S) {s : Series} (hs : s ∈ S) :
      (es.filter fun e => e.series.key = s.key) = Entry.ofSeries s es := by
    apply List.filter_congr
    intro e he
    rw [decide_eq_decide]
    exact h s hs e.series (within e he)
  refine ⟨?_, ?_, ?_⟩
  · intro es within s hs
    rw [Metrics.counter_ofEntries, own within hs]
  · intro es within s hs
    rw [Metrics.timings_ofEntries, own within hs]
  · intro es within e he s hs other
    have unfiled : ¬ e.series.key = s.key := (h s hs e.series he).not.mpr other
    have same : ((es ++ [e]).filter fun e => e.series.key = s.key) =
        es.filter fun e => e.series.key = s.key := by
      simp [unfiled]
    simp only [Metrics.counter_ofEntries, Metrics.timings_ofEntries, same, and_self]

theorem KeepsApart.key_eq_iff (h : KeepsApart α S) {s s' : Series} (hs : s ∈ S) (hs' : s' ∈ S) :
    s'.key = s.key ↔ s'.IsSame s := by
  -- a single sample tells whether the series are one
  have within : ∀ e ∈ [Entry.time (α := α) s' 0], e.series ∈ S := by
    intro e he
    rw [List.mem_singleton.mp he]
    exact hs'
  have read := h.samples _ within s hs
  rw [Metrics.timings_ofEntries, Entry.ofSeries] at read
  by_cases filed : s'.key = s.key <;> by_cases same : s'.IsSame s <;>
    simp [Entry.series, filed, same, Entry.sample?] at read ⊢

end Apart

/--
Metrics keep series apart exactly if the keys of these do: two of them have one key if and only if
they have one name and one set of labels. So it is for all series whose name contains no brace, whose
labels contain no comma and no equals sign in their names, and where no two names of labels are
equal in collation.
-/
theorem keepsApart_iff {α : Type} [Add α] [OfNat α 0] (S : Set Series) :
    (KeepsApart α S ↔ ∀ s ∈ S, ∀ s' ∈ S, s'.key = s.key ↔ s'.IsSame s) ∧
      ((∀ s ∈ S, s.IsPlain) → KeepsApart α S) := by
  refine ⟨⟨fun h s hs s' hs' => h.key_eq_iff hs hs', keepsApart_of_keys⟩, fun plain => ?_⟩
  apply keepsApart_of_keys
  intro s hs s' hs'
  exact Series.key_eq_iff (plain s hs) (plain s' hs')

/-- Two callers who name the labels of a request in different orders. -/
theorem keepsApart_iff_shuffled :
    (Metrics.ofEntries
      [.add ⟨"deta_requests_total", [("method", "GET"), ("status", "200")], by decide⟩ 1.0,
        .add ⟨"deta_requests_total", [("status", "200"), ("method", "GET")], by decide⟩ 2.0]).counter
      "deta_requests_total" [("method", "GET"), ("status", "200")] = (3.0 : Float) := by
  let s : Series := ⟨"deta_requests_total", [("method", "GET"), ("status", "200")], by decide⟩
  let s' : Series := ⟨"deta_requests_total", [("status", "200"), ("method", "GET")], by decide⟩
  have plain : ∀ r ∈ ({s, s'} : Set Series), r.IsPlain := by
    intro r hr
    rcases hr with rfl | rfl
    · exact ⟨by decide +kernel, by decide +kernel, by decide +kernel⟩
    · exact ⟨by decide +kernel, by decide +kernel, by decide +kernel⟩
  have apart : KeepsApart Float {s, s'} := (keepsApart_iff _).2 plain
  have total := apart.total [.add s 1.0, .add s' 2.0] (by simp [Entry.series]) s (.inl rfl)
  refine total.trans ?_
  decide +kernel

/-- A series whose only label contains a comma is taken for one with two labels. -/
theorem not_keepsApart_comma : ¬ KeepsApart Float Set.univ := by
  intro apart
  have total := apart.total
    [.add ⟨"deta_requests_total", [("method", "GET,status=200")], by decide⟩ 1.0] (by simp)
    ⟨"deta_requests_total", [("method", "GET"), ("status", "200")], by decide⟩ trivial
  revert total
  decide +kernel

end Depot
