import FlowPriority.Proofs.Flow.Tally
import FlowPriority.Proofs.Time.Buckets
import Mathlib.Tactic.Abel

/-!
The load series as a function of the packets that fed it.

A bucket is in the series when some packet fell into it, packets without bytes included, and holds
the bytes of all packets that did, up to wrapping. The order of the packets plays no part.
-/

namespace FlowPriority

section Maps

variable {Key Value Weight : Type} [Ord Key] [Std.TransOrd Key] [Std.LawfulEqOrd Key]
  [AddCommMonoid Weight]

theorem nodup_toList (map : Std.ExtTreeMap Key Value) : map.toList.Nodup := by
  apply (Std.ExtTreeMap.distinct_keys_toList (t := map)).imp
  intro first second different same
  rw [same] at different
  exact different Std.ReflCmp.compare_self

/-- The entries of a map are that of one key, if there is one, and those of the others. -/
theorem toList_perm_erase (map : Std.ExtTreeMap Key Value) (key : Key) :
    map.toList.Perm ((map[key]?.map fun value => (key, value)).toList ++
      (map.erase key).toList) := by
  have separate : ((map[key]?.map fun value => (key, value)).toList ++
      (map.erase key).toList).Nodup := by
    rw [List.nodup_append]
    refine ⟨?_, nodup_toList _, ?_⟩
    · cases map[key]? <;> simp
    · rintro ⟨own, value⟩ mine ⟨other, rest⟩ others same
      cases same
      have isKey : key = own := by
        simp only [Option.mem_toList, Option.map_eq_some_iff, Prod.mk.injEq] at mine
        obtain ⟨_, _, isKey, _⟩ := mine
        exact isKey
      rw [Std.ExtTreeMap.mem_toList_iff_getElem?_eq_some, isKey,
        Std.ExtTreeMap.getElem?_erase_self] at others
      cases others
  rw [List.perm_ext_iff_of_nodup (nodup_toList map) separate]
  rintro ⟨other, value⟩
  rw [List.mem_append, Std.ExtTreeMap.mem_toList_iff_getElem?_eq_some,
    Std.ExtTreeMap.mem_toList_iff_getElem?_eq_some, Std.ExtTreeMap.getElem?_erase]
  by_cases same : key = other
  · subst other
    simp
  · simp [same]

/-- Inserting into a map replaces what the old value weighs by what the new one does. -/
theorem sum_insert (map : Std.ExtTreeMap Key Value) (weigh : Key → Value → Weight) (key : Key)
    (value : Value) :
    ((map.insert key value).toList.map fun entry => weigh entry.1 entry.2).sum +
        (map[key]?.map (weigh key)).getD 0 =
      (map.toList.map fun entry => weigh entry.1 entry.2).sum + weigh key value := by
  have split (some : Std.ExtTreeMap Key Value) :
      (some.toList.map fun entry => weigh entry.1 entry.2).sum =
        (some[key]?.map (weigh key)).getD 0 +
          ((some.erase key).toList.map fun entry => weigh entry.1 entry.2).sum := by
    rw [((toList_perm_erase some key).map _).sum_eq]
    cases some[key]? <;> simp
  have same : (map.insert key value).erase key = map.erase key := by
    apply Std.ExtTreeMap.ext_getElem?
    intro other
    simp only [Std.ExtTreeMap.getElem?_erase, Std.ExtTreeMap.getElem?_insert]
    split <;> rfl
  rw [split map, split (map.insert key value), same, Std.ExtTreeMap.getElem?_insert_self]
  simp only [Option.map_some, Option.getD_some]
  abel

/-- Adding to the amount of one entry adds at most as much to all of them taken together. -/
theorem sum_toNat_insert_le (map : Std.ExtTreeMap Key Value) (amount : Value → UInt64) {key : Key}
    {value : Value} {added : UInt64}
    (grown : amount value = (map[key]?.map amount).getD 0 + added) :
    ((map.insert key value).toList.map fun entry => (amount entry.2).toNat).sum ≤
      (map.toList.map fun entry => (amount entry.2).toNat).sum + added.toNat := by
  have replaced := sum_insert map (fun _ value => (amount value).toNat) key value
  have old : (map[key]?.map fun value => (amount value).toNat).getD 0 =
      ((map[key]?.map amount).getD 0).toNat := by
    cases map[key]? <;> rfl
  have bound : (amount value).toNat ≤ ((map[key]?.map amount).getD 0).toNat + added.toNat := by
    rw [grown, UInt64.toNat_add]
    exact Nat.mod_le _ _
  rw [old] at replaced
  omega

end Maps

theorem toNat_sum (words : List UInt64) :
    words.sum.toNat = (words.map (·.toNat)).sum % 2 ^ 64 := by
  induction words with
  | nil => rfl
  | cons word rest ih =>
      rw [List.sum_cons, List.map_cons, List.sum_cons, UInt64.toNat_add, ih, Nat.add_mod_mod]

namespace Load

def inBucket (width : UInt64) (start : Instant) (trace : List Arrival) : List Arrival :=
  trace.filter fun arrival => arrival.now.bucketStart width = start

def recordAll (load : Load) (trace : List Arrival) : Load :=
  trace.foldl (fun current arrival => current.record arrival.now arrival.packet.size) load

theorem recordAll_snoc (load : Load) (trace : List Arrival) (arrival : Arrival) :
    load.recordAll (trace ++ [arrival]) =
      (load.recordAll trace).record arrival.now arrival.packet.size := by
  simp [recordAll]

@[simp] theorem width_recordAll (load : Load) (trace : List Arrival) :
    (load.recordAll trace).width = load.width := by
  induction trace using List.reverseRecOn with
  | nil => rfl
  | append_singleton trace arrival ih =>
      rw [recordAll_snoc, ← ih]
      rfl

theorem ext_get? {first second : Load} (width : first.width = second.width)
    (entries : ∀ start, first.get? start = second.get? start) : first = second := by
  obtain ⟨_, _, _⟩ := first
  obtain ⟨_, _, _⟩ := second
  cases width
  congr
  exact Std.ExtTreeMap.ext_getElem? entries

/-- Two packets may be recorded in either order. -/
theorem record_record (load : Load) (first second : Arrival) :
    (load.record first.now first.packet.size).record second.now second.packet.size =
      (load.record second.now second.packet.size).record first.now first.packet.size := by
  apply ext_get?
  · rfl
  · intro start
    have width (now : Instant) (bytes : UInt32) : (load.record now bytes).width = load.width := rfl
    simp only [get?_record, width]
    split
    · split
      · simp only [Option.getD_some, Option.some.injEq]
        exact add_right_comm _ _ _
      · rfl
    · rfl

theorem recordAll_perm (load : Load) {first second : List Arrival} (permuted : first.Perm second) :
    load.recordAll first = load.recordAll second := by
  apply permuted.foldl_eq'
  intro earlier _ later _ current
  exact record_record current earlier later

theorem inBucket_snoc (width : UInt64) (start : Instant) (trace : List Arrival)
    (arrival : Arrival) :
    inBucket width start (trace ++ [arrival]) =
      if arrival.now.bucketStart width = start then inBucket width start trace ++ [arrival]
      else inBucket width start trace := by
  by_cases hit : arrival.now.bucketStart width = start
  · simp [inBucket, hit]
  · simp [inBucket, hit]

theorem get?_recordAll {load : Load} (nothing : load.buckets = ∅) (trace : List Arrival)
    (start : Instant) :
    (load.recordAll trace).get? start =
      if inBucket load.width start trace = [] then none
      else some (UInt64.ofNat (bytesOf (inBucket load.width start trace))) := by
  induction trace using List.reverseRecOn with
  | nil => simp [recordAll, inBucket, get?, nothing]
  | append_singleton trace arrival ih =>
      have soFar : ((load.recordAll trace).get? start).getD 0 =
          UInt64.ofNat (bytesOf (inBucket load.width start trace)) := by
        rw [ih]
        split
        · rename_i empty
          rw [empty]
          rfl
        · rfl
      rw [recordAll_snoc, get?_record, width_recordAll, soFar, inBucket_snoc]
      by_cases hit : arrival.now.bucketStart load.width = start
      · simp [hit, UInt64.ofNat_add]
      · simp [hit, ih]

theorem mem_toList_iff (load : Load) (start : Instant) (bytes : UInt64) :
    (start, bytes) ∈ load.toList ↔ load.get? start = some bytes :=
  Std.ExtTreeMap.mem_toList_iff_getElem?_eq_some

theorem toList_ascending (load : Load) :
    load.toList.Pairwise fun earlier later => earlier.1 < later.1 := by
  apply (Std.ExtTreeMap.ordered_keys_toList (t := load.buckets)).imp
  intro earlier later before
  have lower : earlier.1.nanos < later.1.nanos := Std.compare_eq_lt.mp before
  exact lower

structure Counts (load : Load) (trace : List Arrival) : Prop where
  ascending : load.toList.Pairwise fun earlier later => earlier.1 < later.1
  starts : ∀ start, (∃ bytes, (start, bytes) ∈ load.toList) ↔
    ∃ arrival ∈ trace, start.nanos.toNat =
      arrival.now.nanos.toNat - arrival.now.nanos.toNat % load.width.toNat
  aligned : ∀ entry ∈ load.toList, load.width.toNat ∣ entry.1.nanos.toNat
  bytes : ∀ entry ∈ load.toList, entry.2.toNat =
    bytesOf (trace.filter fun arrival =>
      entry.1.nanos.toNat ≤ arrival.now.nanos.toNat ∧
        arrival.now.nanos.toNat < entry.1.nanos.toNat + load.width.toNat) % 2 ^ 64
  lookup : ∀ start bytes, load.get? start = some bytes ↔ (start, bytes) ∈ load.toList

theorem inBucket_ne_nil_iff (width : UInt64) (start : Instant) (trace : List Arrival) :
    inBucket width start trace ≠ [] ↔
      ∃ arrival ∈ trace, start.nanos.toNat =
        arrival.now.nanos.toNat - arrival.now.nanos.toNat % width.toNat := by
  simp only [inBucket, ne_eq, List.filter_eq_nil_iff, decide_eq_true_eq, not_forall, not_not,
    Instant.eq_iff_toNat_eq, Instant.bucketStart_toNat, exists_prop]
  constructor
  · rintro ⟨arrival, member, same⟩
    exact ⟨arrival, member, same.symm⟩
  · rintro ⟨arrival, member, same⟩
    exact ⟨arrival, member, same.symm⟩

theorem mem_toList_recordAll_iff {load : Load} (nothing : load.buckets = ∅) (trace : List Arrival)
    (start : Instant) (bytes : UInt64) :
    (start, bytes) ∈ (load.recordAll trace).toList ↔
      inBucket load.width start trace ≠ [] ∧
        UInt64.ofNat (bytesOf (inBucket load.width start trace)) = bytes := by
  rw [mem_toList_iff, get?_recordAll nothing]
  split
  · simp_all
  · simp_all

theorem counts_recordAll {load : Load} (nothing : load.buckets = ∅) (trace : List Arrival) :
    (load.recordAll trace).Counts trace := by
  have entries := mem_toList_recordAll_iff nothing trace
  constructor
  · exact toList_ascending _
  · intro start
    simp only [entries, exists_and_left, exists_eq', and_true, width_recordAll,
      inBucket_ne_nil_iff]
  · rintro ⟨start, bytes⟩ member
    have hit := ((entries start bytes).mp member).1
    obtain ⟨arrival, _, same⟩ := (inBucket_ne_nil_iff _ _ _).mp hit
    rw [width_recordAll, same]
    exact Nat.dvd_sub_mod _
  · rintro ⟨start, bytes⟩ member
    obtain ⟨hit, sum⟩ := (entries start bytes).mp member
    obtain ⟨arrival, _, same⟩ := (inBucket_ne_nil_iff _ _ _).mp hit
    have aligned : load.width.toNat ∣ start.nanos.toNat := by
      rw [same]
      exact Nat.dvd_sub_mod _
    rw [← sum, UInt64.toNat_ofNat', width_recordAll]
    simp only [inBucket, Instant.bucketStart_eq_iff _ start load.width_ne_zero aligned]
  · intro start bytes
    exact (mem_toList_iff _ start bytes).symm

def sumOver (load : Load) (chosen : Instant → Bool) : UInt64 :=
  ((load.toList.filter fun bucket => chosen bucket.1).map (·.2)).sum

theorem total_eq_sumOver (load : Load) : load.total = load.sumOver fun _ => true := by
  rw [sumOver, List.filter_true, total, List.sum_eq_foldl, List.foldl_map]

theorem sumOver_eq_sum (load : Load) (chosen : Instant → Bool) :
    load.sumOver chosen =
      (load.toList.map fun bucket => if chosen bucket.1 then bucket.2 else 0).sum := by
  rw [sumOver]
  induction load.toList with
  | nil => rfl
  | cons bucket rest ih =>
      by_cases hit : chosen bucket.1 = true
      · simp [hit, ih]
      · simp [hit, ih]

theorem buckets_record (load : Load) (now : Instant) (bytes : UInt32) :
    (load.record now bytes).buckets = load.buckets.insert (now.bucketStart load.width)
      ((load.get? (now.bucketStart load.width)).getD 0 + bytes.toUInt64) := by
  apply Std.ExtTreeMap.ext_getElem?
  intro start
  rw [Std.ExtTreeMap.getElem?_insert]
  have lookup := load.get?_record now start bytes
  rw [get?] at lookup
  rw [lookup]
  by_cases hit : now.bucketStart load.width = start
  · simp [hit]
  · simp [hit, get?]

theorem sumOver_record (load : Load) (chosen : Instant → Bool) (now : Instant) (bytes : UInt32) :
    (load.record now bytes).sumOver chosen = load.sumOver chosen +
      if chosen (now.bucketStart load.width) then bytes.toUInt64 else 0 := by
  have replaced := sum_insert load.buckets (fun start sum => if chosen start then sum else 0)
    (now.bucketStart load.width)
    ((load.get? (now.bucketStart load.width)).getD 0 + bytes.toUInt64)
  rw [← buckets_record] at replaced
  rw [sumOver_eq_sum, sumOver_eq_sum, toList, toList]
  by_cases hit : chosen (now.bucketStart load.width) = true
  · simp only [hit, if_true, Option.map_id_fun', id_eq] at replaced ⊢
    rw [add_comm _ bytes.toUInt64, ← add_assoc] at replaced
    exact add_right_cancel replaced
  · have weightless : (load.buckets[now.bucketStart load.width]?.map fun _ => 0).getD 0 =
        (0 : UInt64) := by
      cases load.buckets[now.bucketStart load.width]? <;> rfl
    simpa [hit, weightless] using replaced

theorem sumOver_recordAll {load : Load} (nothing : load.buckets = ∅) (chosen : Instant → Bool)
    (trace : List Arrival) :
    (load.recordAll trace).sumOver chosen = UInt64.ofNat
      (bytesOf (trace.filter fun arrival => chosen (arrival.now.bucketStart load.width))) := by
  induction trace using List.reverseRecOn with
  | nil =>
      rw [recordAll, List.foldl_nil, sumOver, toList, nothing]
      rfl
  | append_singleton trace arrival ih =>
      rw [recordAll_snoc, sumOver_record, ih, width_recordAll, List.filter_append, bytesOf_append]
      by_cases hit : chosen (arrival.now.bucketStart load.width) = true
      · simp [hit, UInt64.ofNat_add]
      · simp [hit]

theorem total_recordAll {load : Load} (nothing : load.buckets = ∅) (trace : List Arrival) :
    (load.recordAll trace).total = UInt64.ofNat (bytesOf trace) := by
  rw [total_eq_sumOver, sumOver_recordAll nothing, List.filter_true]

theorem sum_toNat_record_le (load : Load) (now : Instant) (bytes : UInt32) :
    ((load.record now bytes).toList.map fun bucket => bucket.2.toNat).sum ≤
      (load.toList.map fun bucket => bucket.2.toNat).sum + bytes.toNat := by
  have grown : id ((load.get? (now.bucketStart load.width)).getD 0 + bytes.toUInt64) =
      (load.buckets[now.bucketStart load.width]?.map id).getD 0 + bytes.toUInt64 := by
    rw [Option.map_id]
    rfl
  rw [toList, buckets_record]
  exact sum_toNat_insert_le load.buckets id grown

theorem sum_toNat_recordAll_le {load : Load} (nothing : load.buckets = ∅) (trace : List Arrival) :
    ((load.recordAll trace).toList.map fun bucket => bucket.2.toNat).sum ≤ bytesOf trace := by
  induction trace using List.reverseRecOn with
  | nil =>
      rw [recordAll, List.foldl_nil, toList, nothing]
      exact Nat.le_refl 0
  | append_singleton trace arrival ih =>
      have later := (load.recordAll trace).sum_toNat_record_le arrival.now arrival.packet.size
      rw [recordAll_snoc, bytesOf_append, bytesOf_cons, bytesOf_nil]
      omega

/-- As long as the bytes of a trace fit a word, the buckets hold all of them. -/
theorem sum_toNat_recordAll {load : Load} (nothing : load.buckets = ∅) {trace : List Arrival}
    (small : bytesOf trace < 2 ^ 64) :
    ((load.recordAll trace).toList.map fun bucket => bucket.2.toNat).sum = bytesOf trace := by
  have total := congrArg UInt64.toNat (total_recordAll nothing trace)
  have atMost := sum_toNat_recordAll_le nothing trace
  rw [total_eq_sumOver, sumOver, List.filter_true, toNat_sum, List.map_map,
    UInt64.toNat_ofNat', Nat.mod_eq_of_lt small] at total
  rw [← total]
  exact (Nat.mod_eq_of_lt (Nat.lt_of_le_of_lt atMost small)).symm

end Load

end FlowPriority
