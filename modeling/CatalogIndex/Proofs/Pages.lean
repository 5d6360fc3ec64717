import CatalogIndex.Catalog
/-!
Pages of the items that are active at an instant. A page begins where its number times the page size says, however large
that product is, so the pages that are planned for the number of active items make up all of these in their order. Each
of them has an item, only the last one may have fewer than it has room for, and behind them there is nothing.
-/
namespace CatalogIndex

variable {total size : UInt64}

theorem toNat_pos (positive : size ≠ 0) : 0 < size.toNat :=
  UInt64.lt_iff_toNat_lt.1 (UInt64.pos_iff_ne_zero.2 positive)

theorem toNat_pageCount (positive : size ≠ 0) :
    (pageCount total size).toNat = (total.toNat + (size.toNat - 1)) / size.toNat := by
  have room := toNat_pos positive
  have fits : (total.toNat + (size.toNat - 1)) / size.toNat < UInt64.size := by
    rw [Nat.div_lt_iff_lt_mul room]
    have below := total.toNat_lt_size
    have large := Nat.le_mul_of_pos_left (size.toNat - 1) (show 0 < UInt64.size by decide)
    have split : UInt64.size * size.toNat = UInt64.size * (size.toNat - 1) + UInt64.size := by
      rw [← Nat.mul_succ, Nat.succ_eq_add_one, Nat.sub_add_cancel room]
    omega
  unfold pageCount
  rw [if_neg positive, UInt64.toNat_ofNat_of_lt' fits]

theorem lt_pageCount (positive : size ≠ 0) {page : Nat} :
    page < (pageCount total size).toNat ↔ page * size.toNat < total.toNat := by
  have room := toNat_pos positive
  rw [toNat_pageCount positive, ← Nat.add_one_le_iff, Nat.le_div_iff_mul_le room, Nat.succ_mul]
  omega

namespace Catalog

variable {catalog : Catalog} {asOf : Instant}

theorem toNat_countActive (few : (catalog.active asOf).length < UInt64.size) :
    (catalog.countActive asOf).toNat = (catalog.active asOf).length :=
  UInt64.toNat_ofNat_of_lt' few

theorem pageActive_of_fits {page : UInt64} (fits : page.toNat * size.toNat < UInt64.size) :
    catalog.pageActive page size asOf =
      ((catalog.active asOf).drop (page.toNat * size.toNat)).take size.toNat := by
  unfold pageActive skipped
  rw [Nat.min_eq_left (by omega)]

/-- Where the product saturates there are no items left, so a page is what stands at its place. -/
theorem pageActive_eq (few : (catalog.active asOf).length < UInt64.size) (page size : UInt64) :
    catalog.pageActive page size asOf =
      ((catalog.active asOf).drop (page.toNat * size.toNat)).take size.toNat := by
  rcases Nat.lt_or_ge (page.toNat * size.toNat) UInt64.size with fits | overflows
  · exact pageActive_of_fits fits
  · unfold pageActive skipped
    rw [Nat.min_eq_right (by omega), List.drop_eq_nil_of_le (by omega), List.drop_eq_nil_of_le (by omega)]

theorem length_pageActive (few : (catalog.active asOf).length < UInt64.size) (page size : UInt64) :
    (catalog.pageActive page size asOf).length =
      min size.toNat ((catalog.active asOf).length - page.toNat * size.toNat) := by
  rw [pageActive_eq few, List.length_take, List.length_drop]

theorem flatMap_pageActive (few : (catalog.active asOf).length < UInt64.size) (size : UInt64) {count : Nat}
    (fits : count ≤ UInt64.size) :
    (List.range count).flatMap (fun page => catalog.pageActive (UInt64.ofNat page) size asOf) =
      (catalog.active asOf).take (count * size.toNat) := by
  induction count with
  | zero => simp
  | succ count ih =>
    have number : (UInt64.ofNat count).toNat = count := UInt64.toNat_ofNat_of_lt' fits
    rw [List.range_succ, List.flatMap_append, ih (by omega), List.flatMap_singleton, pageActive_eq few, number,
      Nat.succ_mul, List.take_add]

/-- The pages that are planned for the active items of an instant, put together, are the items that are active then, in
the order of the catalog. None of these pages is empty and all but the last are full; every later page is empty. -/
theorem pages_partition_active (few : catalog.items.length < UInt64.size) (positive : 1 ≤ size) (asOf : Instant) :
    ((List.range (pageCount (catalog.countActive asOf) size).toNat).flatMap fun page =>
        catalog.pageActive (UInt64.ofNat page) size asOf) = catalog.items.filter (·.isActiveAt asOf) ∧
      (∀ page, page < pageCount (catalog.countActive asOf) size →
        catalog.pageActive page size asOf ≠ [] ∧
        (page.toNat + 1 < (pageCount (catalog.countActive asOf) size).toNat →
          (catalog.pageActive page size asOf).length = size.toNat)) ∧
      ∀ page, pageCount (catalog.countActive asOf) size ≤ page → catalog.pageActive page size asOf = [] := by
  have few : (catalog.active asOf).length < UInt64.size := Nat.lt_of_le_of_lt (List.length_filter_le _ _) few
  have positive : size ≠ 0 := by
    rintro rfl
    exact absurd positive (by decide)
  have room := toNat_pos positive
  -- A page is planned exactly if it begins below the number of the active items.
  have begins (page : Nat) : page < (pageCount (catalog.countActive asOf) size).toNat ↔
      page * size.toNat < (catalog.active asOf).length := by
    rw [lt_pageCount positive, toNat_countActive few]
  refine ⟨?_, fun page planned => ⟨?_, fun followed => ?_⟩, fun page beyond => ?_⟩
  · have whole : (catalog.active asOf).length ≤ (pageCount (catalog.countActive asOf) size).toNat * size.toNat :=
      Nat.not_lt.1 fun short => Nat.lt_irrefl _ ((begins _).2 short)
    rw [flatMap_pageActive few size (Nat.le_of_lt (UInt64.toNat_lt_size _)), List.take_of_length_le whole]
    rfl
  · have below := (begins page.toNat).1 (UInt64.lt_iff_toNat_lt.1 planned)
    rw [← List.length_pos_iff, length_pageActive few]
    omega
  · have below := (begins (page.toNat + 1)).1 followed
    rw [Nat.succ_mul] at below
    rw [length_pageActive few]
    omega
  · have above : ¬ page.toNat * size.toNat < (catalog.active asOf).length := fun below =>
      Nat.not_lt.2 (UInt64.le_iff_toNat_le.1 beyond) ((begins page.toNat).2 below)
    rw [← List.length_eq_zero_iff, length_pageActive few]
    omega

end Catalog

namespace Trial

/-- Seven items, of which two are no longer active at the epoch. -/
def stall : Catalog :=
  ⟨[.new 1, { Item.new 2 with activeEnd := some .epoch }, .new 3, .new 4, { Item.new 5 with activeEnd := some .epoch },
    .new 6, .new 7]⟩

end Trial

namespace Catalog

theorem pages_partition_active_trial :
    pageCount (Trial.stall.countActive .epoch) 2 = 3 ∧
      ((List.range 3).flatMap fun page => Trial.stall.pageActive (UInt64.ofNat page) 2 .epoch).map Item.id =
        [1, 3, 4, 6, 7] ∧
      (Trial.stall.pageActive 1 2 .epoch).length = 2 ∧ Trial.stall.pageActive 2 2 .epoch ≠ [] ∧
      Trial.stall.pageActive 9223372036854775808 2 .epoch = [] := by
  obtain ⟨whole, planned, beyond⟩ :=
    pages_partition_active (show Trial.stall.items.length < UInt64.size by decide) (show 1 ≤ 2 by decide) .epoch
  have count : pageCount (Trial.stall.countActive .epoch) 2 = 3 := by decide
  rw [count] at whole planned beyond
  refine ⟨count, ?_, (planned 1 (by decide)).2 (by decide), (planned 2 (by decide)).1, beyond _ (by decide)⟩
  exact (congrArg (List.map Item.id) whole).trans (by decide)

end Catalog
end CatalogIndex
