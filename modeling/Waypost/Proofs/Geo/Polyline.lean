import Mathlib.Tactic.Ring
import Waypost.Geo.Polyline
import Waypost.Proofs.Fault.Steps

/-!
# Polylines read back

A polyline is read number by number: each character is five bits and the mark whether more of them
follow, and each number is a step from the coordinate before.

* `readNumber`, `readRow`, `decodePolyline` -- the reader, which keeps one sum for each dimension;
* `QuantizedPath` -- the whole numbers of a path, each from its own point alone;
* `readNumber_encodeNumber`, `readRow_differences` -- what is written is read back, whatever
  follows it;
* `decodePolyline_encodePolyline` -- **a polyline is read back as the whole numbers of its path**.
-/

namespace Waypost

open Decimal

/-! ## 1. The reader -/

/-- The signed number behind one without sign: the lowest bit is the sign. -/
def unzigzag (n : Nat) : Int := if n % 2 = 0 then .ofNat (n / 2) else .negSucc (n / 2)

/-- Reads one signed number whose bits below `shift` are known. -/
def readNumber (shift value : Nat) : List Char → Option (Int × List Char)
  | [] => none
  | c :: rest =>
    let group := c.toNat - 63
    let read := value + group % 32 * 2 ^ shift
    if group < 32 then some (unzigzag read, rest) else readNumber (shift + 5) read rest

/-- Reads one number for each dimension and adds it to the sum of that dimension. -/
def readRow : List Int → List Char → Option (List Int × List Char)
  | [], cs => some ([], cs)
  | sum :: sums, cs =>
    (readNumber 0 0 cs).bind fun (step, cs) =>
      (readRow sums cs).map fun (row, cs) => ((sum + step) :: row, cs)

/-- Reads rows up to the end of the text. A row that reads nothing would never end. -/
def readRows (sums : List Int) (cs : List Char) : Option (List (List Int)) :=
  if cs.isEmpty then some []
  else
    match readRow sums cs with
    | none => none
    | some (row, rest) =>
      if rest.length < cs.length then (row :: ·) <$> readRows row rest else none
termination_by cs.length

/-- Reads a polyline of some dimension as one row of whole numbers for each point. -/
def decodePolyline (dimension : Nat) (text : String) : Option (List (List Int)) :=
  readRows (List.replicate dimension 0) text.toList

/-! ## 2. The whole numbers of a path -/

/-- A double rounded to a whole number, a half going up. -/
def RoundsTo (x : Float) (n : Int) : Prop := floor? (x + 0.5) = .ok n

/-- The whole numbers of a point. -/
def QuantizedPoint (multiplier : Float) (point : Point) : Option Float → List Int → Prop
  | none, row => ∃ lat lon, RoundsTo (point.lat.toFloat * multiplier) lat ∧
      RoundsTo (point.lon.toFloat * multiplier) lon ∧ row = [lat, lon]
  | some height, row => ∃ lat lon elevation, RoundsTo (point.lat.toFloat * multiplier) lat ∧
      RoundsTo (point.lon.toFloat * multiplier) lon ∧ RoundsTo (height * 100.0) elevation ∧
      row = [lat, lon, elevation]

/-- The elevations of a path, where there are as many as points. -/
def elevationsOf (points : List Point) (elevations : Option (List Float)) : Option (List Float) :=
  elevations.filter (·.length = points.length)

/-- How many numbers a polyline has for each point. -/
def polylineDimension (points : List Point) (elevations : Option (List Float)) : Nat :=
  if (elevationsOf points elevations).isSome then 3 else 2

/-- The whole numbers of a path: one row for each point, in order, made from that point alone. -/
def QuantizedPath (points : List Point) (elevations : Option (List Float)) (multiplier : Float)
    (rows : List (List Int)) : Prop :=
  rows.length = points.length ∧ ∀ (i : Nat) point row, points[i]? = some point →
    rows[i]? = some row →
      QuantizedPoint multiplier point
        ((elevationsOf points elevations).bind fun heights => heights[i]?) row

/-! ## 3. Numbers -/

theorem unzigzag_zigzag (value : Int) : unzigzag (zigzag value) = value := by
  unfold unzigzag zigzag
  cases value with
  | ofNat n =>
    dsimp only
    rw [if_pos (by omega)]
    congr 1
    omega
  | negSucc n =>
    dsimp only
    rw [if_neg (by omega)]
    congr 1
    omega

theorem groups_of_lt {n : Nat} (h : n < 32) : groups n = [n] := by
  rw [groups, if_pos h]

theorem groups_of_ge {n : Nat} (h : 32 ≤ n) : groups n = (32 + n % 32) :: groups (n / 32) := by
  rw [groups, if_neg (by omega)]

/-- A group has five bits and the mark. -/
theorem lt_of_mem_groups {n group : Nat} (h : group ∈ groups n) : group < 64 := by
  induction n using Nat.strongRecOn with
  | ind n ih =>
    by_cases hn : n < 32
    · rw [groups_of_lt hn, List.mem_singleton] at h
      omega
    · rw [groups_of_ge (by omega), List.mem_cons] at h
      rcases h with rfl | h
      · omega
      · exact ih (n / 32) (by omega) h

theorem toNat_groupChar : ∀ group < 64, (groupChar group).toNat = group + 63 := by decide

/-- **A number is read back**, whatever follows it and whatever bits came before. -/
theorem readNumber_groups (shift value n : Nat) (rest : List Char) :
    readNumber shift value ((groups n).map groupChar ++ rest) =
      some (unzigzag (value + n * 2 ^ shift), rest) := by
  induction n using Nat.strongRecOn generalizing shift value with
  | ind n ih =>
    by_cases hn : n < 32
    · have hgroup : (groupChar n).toNat - 63 = n := by
        rw [toNat_groupChar n (by omega)]
        omega
      rw [groups_of_lt hn, List.map_singleton, List.singleton_append, readNumber, hgroup,
        Nat.mod_eq_of_lt hn, if_pos hn]
    · have hgroup : (groupChar (32 + n % 32)).toNat - 63 = 32 + n % 32 := by
        rw [toNat_groupChar _ (by omega)]
        omega
      have hlow : (32 + n % 32) % 32 = n % 32 := by omega
      -- the bits read so far and the quotient still to come make up the number
      have hsum : value + n % 32 * 2 ^ shift + n / 32 * 2 ^ (shift + 5) =
          value + n * 2 ^ shift := by
        calc value + n % 32 * 2 ^ shift + n / 32 * 2 ^ (shift + 5)
            = value + (n % 32 + 32 * (n / 32)) * 2 ^ shift := by rw [Nat.pow_add]; ring
          _ = value + n * 2 ^ shift := by rw [Nat.mod_add_div]
      rw [groups_of_ge (by omega), List.map_cons, List.cons_append, readNumber, hgroup, hlow,
        if_neg (by omega), ih (n / 32) (by omega), hsum]

theorem readNumber_encodeNumber (value : Int) (rest : List Char) :
    readNumber 0 0 (encodeNumber value ++ rest) = some (value, rest) := by
  unfold encodeNumber
  rw [readNumber_groups, Nat.zero_add, Nat.pow_zero, Nat.mul_one, unzigzag_zigzag]

theorem encodeNumber_ne_nil (value : Int) : encodeNumber value ≠ [] := by
  intro h
  have hread := readNumber_encodeNumber value []
  rw [h] at hread
  cases hread

/-- **Every character of a number is printable.** -/
theorem printable_encodeNumber {value : Int} {c : Char} (h : c ∈ encodeNumber value) :
    63 ≤ c.toNat ∧ c.toNat ≤ 126 := by
  obtain ⟨group, hgroup, rfl⟩ := List.mem_map.mp h
  have hlt := lt_of_mem_groups hgroup
  rw [toNat_groupChar group hlt]
  omega

/-! ## 4. Rows -/

/-- **A row is read back** from its differences to the row before, whatever follows it. -/
theorem readRow_differences {row sums : List Int} (h : row.length = sums.length)
    (rest : List Char) :
    readRow sums ((List.zipWith (· - ·) row sums).flatMap encodeNumber ++ rest) =
      some (row, rest) := by
  induction sums generalizing row with
  | nil =>
    rw [List.length_nil, List.length_eq_zero_iff] at h
    subst h
    rfl
  | cons sum sums ih =>
    cases row with
    | nil => cases h
    | cons value row =>
      rw [List.zipWith_cons_cons, List.flatMap_cons, List.append_assoc, readRow,
        readNumber_encodeNumber, Option.bind_some]
      dsimp only
      rw [ih (Nat.succ.inj h), Option.map_some, add_sub_cancel]

/-- A list is paired with no more of another one than is as long as it is. -/
theorem zipWith_take (f : α → β → γ) (xs : List α) (ys : List β) :
    List.zipWith f xs (ys.take xs.length) = List.zipWith f xs ys := by
  induction xs generalizing ys with
  | nil => rfl
  | cons x xs ih =>
    cases ys with
    | nil => rfl
    | cons y ys => rw [List.length_cons, List.take_succ_cons, List.zipWith_cons_cons, ih]; rfl

theorem differences_take {rows : List (List Int)} {n : Nat} (h : ∀ row ∈ rows, row.length = n)
    (before : List Int) : differences (before.take n) rows = differences before rows := by
  cases rows with
  | nil => rfl
  | cons row rest =>
    unfold differences
    rw [← h row List.mem_cons_self, zipWith_take]

/-- A row that is not empty is written with at least one character. -/
theorem length_differences_pos {row sums : List Int} (h : row.length = sums.length)
    (hpos : sums ≠ []) :
    0 < ((List.zipWith (· - ·) row sums).flatMap encodeNumber).length := by
  match row, sums with
  | [], _ => exact absurd (List.length_eq_zero_iff.mp h.symm) hpos
  | value :: row, sum :: sums =>
    have hfirst := List.length_pos_of_ne_nil (encodeNumber_ne_nil (value - sum))
    rw [List.zipWith_cons_cons, List.flatMap_cons, List.length_append]
    omega

/-- **Rows of one length are read back** from their differences. -/
theorem readRows_differences {rows : List (List Int)} {sums : List Int} (hpos : sums ≠ [])
    (h : ∀ row ∈ rows, row.length = sums.length) :
    readRows sums ((differences sums rows).flatMap (·.flatMap encodeNumber)) = some rows := by
  induction rows generalizing sums with
  | nil =>
    rw [differences, List.flatMap_nil, readRows]
    rfl
  | cons row rest ih =>
    obtain ⟨hrow, hrest⟩ := List.forall_mem_cons.mp h
    have hne : row ≠ [] := by
      rintro rfl
      exact hpos (List.length_eq_zero_iff.mp hrow.symm)
    have hfirst := length_differences_pos hrow hpos
    have hread := readRow_differences hrow
      ((differences row rest).flatMap (·.flatMap encodeNumber))
    have hsome : ¬ (((List.zipWith (· - ·) row sums).flatMap encodeNumber ++
        (differences row rest).flatMap (·.flatMap encodeNumber)).isEmpty = true) := by
      rw [List.isEmpty_iff_length_eq_zero, List.length_append]
      omega
    rw [differences, List.flatMap_cons, readRows, if_neg hsome, hread]
    dsimp only
    rw [if_pos (by rw [List.length_append]; omega), ih hne fun other ho => ?_]
    · rfl
    · rw [hrest other ho, hrow]

/-! ## 5. Polylines -/

theorem length_elevationsOf {points : List Point} {elevations : Option (List Float)}
    {heights : List Float} (h : elevationsOf points elevations = some heights) :
    heights.length = points.length :=
  of_decide_eq_true (Option.filter_eq_some_iff.mp h).2

theorem withElevations_eq (points : List Point) (elevations : Option (List Float)) :
    withElevations points elevations =
      match elevationsOf points elevations with
      | some heights => points.zip (heights.map some)
      | none => points.map (·, none) := by
  unfold withElevations elevationsOf
  cases elevations with
  | none => rfl
  | some heights =>
    dsimp only
    split
    · rename_i hlength
      rw [Option.filter_some, if_pos (decide_eq_true hlength)]
    · rename_i hlength
      rw [Option.filter_some, if_neg (by simpa using hlength)]

theorem length_withElevations (points : List Point) (elevations : Option (List Float)) :
    (withElevations points elevations).length = points.length := by
  rw [withElevations_eq]
  cases h : elevationsOf points elevations with
  | none => exact List.length_map _
  | some heights => rw [List.length_zip, List.length_map, length_elevationsOf h, Nat.min_self]

/-- Each point is paired with its own elevation. -/
theorem getElem?_withElevations {points : List Point} {elevations : Option (List Float)} {i : Nat}
    {point : Point} (h : points[i]? = some point) :
    (withElevations points elevations)[i]? =
      some (point, (elevationsOf points elevations).bind fun heights => heights[i]?) := by
  rw [withElevations_eq]
  cases hh : elevationsOf points elevations with
  | none => rw [List.getElem?_map, h, Option.map_some, Option.bind_none]
  | some heights =>
    have hi : i < heights.length := by
      rw [length_elevationsOf hh]
      exact (List.getElem?_eq_some_iff.mp h).1
    have hheight : (heights.map some)[i]? = some heights[i]? := by
      rw [List.getElem?_map, List.getElem?_eq_getElem hi, Option.map_some]
    exact List.getElem?_zip_eq_some.mpr ⟨h, hheight⟩

theorem roundsTo_of_roundHalfUp {x : Float} {n : Int} (h : roundHalfUp x = .ok n) :
    RoundsTo x n := by
  unfold roundHalfUp at h
  exact wholeNumber_eq_ok.mp h

theorem quantizedPoint_of_quantizePoint {multiplier : Float} {point : Point}
    {elevation : Option Float} {row : List Int}
    (h : quantizePoint multiplier point elevation = .ok row) :
    QuantizedPoint multiplier point elevation row := by
  unfold quantizePoint at h
  obtain ⟨lat, hlat, h⟩ := bind_eq_ok.mp h
  obtain ⟨lon, hlon, h⟩ := bind_eq_ok.mp h
  have hlat := roundsTo_of_roundHalfUp hlat
  have hlon := roundsTo_of_roundHalfUp hlon
  cases elevation with
  | none =>
    cases h
    exact ⟨lat, lon, hlat, hlon, rfl⟩
  | some height =>
    obtain ⟨whole, hwhole, h⟩ := bind_eq_ok.mp h
    cases h
    exact ⟨lat, lon, whole, hlat, hlon, roundsTo_of_roundHalfUp hwhole, rfl⟩

/-- **Rows that are made of a path are its whole numbers.** -/
theorem quantizedPath_of_quantize {points : List Point} {elevations : Option (List Float)}
    {multiplier : Float} {rows : List (List Int)}
    (h : quantize points elevations multiplier = .ok rows) :
    QuantizedPath points elevations multiplier rows := by
  have hrows := forall₂_of_mapM h
  refine ⟨?_, fun i point row hpoint hrow => ?_⟩
  · rw [← hrows.length_eq, length_withElevations]
  · obtain ⟨hi, hpair⟩ := List.getElem?_eq_some_iff.mp (getElem?_withElevations hpoint)
    obtain ⟨hi', rfl⟩ := List.getElem?_eq_some_iff.mp hrow
    have hquantized := hrows.get hi hi'
    rw [List.get_eq_getElem, List.get_eq_getElem, hpair] at hquantized
    exact quantizedPoint_of_quantizePoint hquantized

/-- The rows of a path are as long as its dimension. -/
theorem length_of_quantizedPath {points : List Point} {elevations : Option (List Float)}
    {multiplier : Float} {rows : List (List Int)}
    (h : QuantizedPath points elevations multiplier rows) :
    ∀ row ∈ rows, row.length = polylineDimension points elevations := by
  intro row hrow
  obtain ⟨i, hi, rfl⟩ := List.mem_iff_getElem.mp hrow
  have hpoint : i < points.length := by
    rw [← h.1]
    exact hi
  have hquantized := h.2 i points[i] rows[i] (List.getElem?_eq_getElem hpoint)
    (List.getElem?_eq_getElem hi)
  unfold polylineDimension
  cases hh : elevationsOf points elevations with
  | none =>
    rw [hh] at hquantized
    obtain ⟨lat, lon, -, -, hlist⟩ := hquantized
    rw [hlist]
    rfl
  | some heights =>
    have hheight : i < heights.length := by
      rw [length_elevationsOf hh]
      exact hpoint
    rw [hh, Option.bind_some, List.getElem?_eq_getElem hheight] at hquantized
    obtain ⟨lat, lon, elevation, -, -, -, hlist⟩ := hquantized
    rw [hlist]
    rfl

theorem encodePolyline_eq_ok {points : List Point} {elevations : Option (List Float)}
    {multiplier : Float} {text : String}
    (h : encodePolyline points elevations multiplier = .ok text) :
    ∃ rows, quantize points elevations multiplier = .ok rows ∧
      text = String.ofList (encodeRows rows) := by
  unfold encodePolyline at h
  split at h
  · cases h
  · obtain ⟨rows, hrows, h⟩ := bind_eq_ok.mp h
    cases h
    exact ⟨rows, hrows, rfl⟩

/-- **The rows of a path are read back** from their text. -/
theorem decodePolyline_encodeRows {points : List Point} {elevations : Option (List Float)}
    {multiplier : Float} {rows : List (List Int)}
    (h : QuantizedPath points elevations multiplier rows) :
    decodePolyline (polylineDimension points elevations) (String.ofList (encodeRows rows)) =
      some rows := by
  have hlength := length_of_quantizedPath h
  have hstart : List.replicate (polylineDimension points elevations) (0 : Int) =
      [0, 0, 0].take (polylineDimension points elevations) := by
    unfold polylineDimension
    split <;> rfl
  have hpos : List.replicate (polylineDimension points elevations) (0 : Int) ≠ [] := by
    unfold polylineDimension
    split <;> simp
  have hread := readRows_differences hpos fun row hrow => by
    rw [hlength row hrow, List.length_replicate]
  unfold decodePolyline encodeRows
  rw [String.toList_ofList, ← differences_take hlength, ← hstart]
  exact hread

theorem printable_encodeRows {rows : List (List Int)} {c : Char} (h : c ∈ encodeRows rows) :
    63 ≤ c.toNat ∧ c.toNat ≤ 126 := by
  obtain ⟨row, -, hrow⟩ := List.mem_flatMap.mp h
  obtain ⟨value, -, hvalue⟩ := List.mem_flatMap.mp hrow
  exact printable_encodeNumber hvalue

/-- **A polyline is read back as the whole numbers of its path**, of any size and with nothing left
    over, and each character of it is printable. Whatever path of the same dimension has the same
    text has the same whole numbers. -/
theorem decodePolyline_encodePolyline {points : List Point} {elevations : Option (List Float)}
    {multiplier : Float} {text : String}
    (h : encodePolyline points elevations multiplier = .ok text) :
    ∃ rows, decodePolyline (polylineDimension points elevations) text = some rows ∧
      QuantizedPath points elevations multiplier rows ∧
      (∀ c ∈ text.toList, 63 ≤ c.toNat ∧ c.toNat ≤ 126) ∧
      ∀ others heights factor, encodePolyline others heights factor = .ok text →
        polylineDimension others heights = polylineDimension points elevations →
          QuantizedPath others heights factor rows := by
  obtain ⟨rows, hrows, rfl⟩ := encodePolyline_eq_ok h
  have hpath := quantizedPath_of_quantize hrows
  have hread := decodePolyline_encodeRows hpath
  refine ⟨rows, hread, hpath, fun c hc => ?_, fun others heights factor ho hdimension => ?_⟩
  · rw [String.toList_ofList] at hc
    exact printable_encodeRows hc
  · obtain ⟨rows', hrows', htext⟩ := encodePolyline_eq_ok ho
    have hpath' := quantizedPath_of_quantize hrows'
    have hread' := decodePolyline_encodeRows hpath'
    rw [← htext, hdimension, hread] at hread'
    cases hread'
    exact hpath'

example : decodePolyline 2 "_p~iF~ps|U_ulLnnqC_mqNvxq`@" =
    some [[3850000, -12020000], [4070000, -12095000], [4325200, -12645300]] := by decide +kernel

/-- A path over a ridge, the second point south and west of the first. -/
def ridge : List Point :=
  [⟨.float 47.25, .float 11.5, by decide +kernel, by decide +kernel⟩,
    ⟨.int 47, .float (-0.000005), by decide +kernel, by decide +kernel⟩]

theorem decodePolyline_encodePolyline_ridge :
    ∃ text, encodePolyline ridge (some [2339.125, -1.5]) 1e5 = .ok text ∧
      QuantizedPath ridge (some [2339.125, -1.5]) 1e5
        [[4725000, 1150000, 233913], [4700000, 0, -150]] := by
  have hwritten : (encodePolyline ridge (some [2339.125, -1.5]) 1e5).toOption.any (fun text =>
      decodePolyline (polylineDimension ridge (some [2339.125, -1.5])) text ==
        some [[4725000, 1150000, 233913], [4700000, 0, -150]]) = true := by decide +kernel
  obtain ⟨text, htext, hrows⟩ := exists_ok_of_any hwritten
  obtain ⟨rows, hread, hpath, -⟩ := decodePolyline_encodePolyline htext
  cases hread.symm.trans (beq_iff_eq.mp hrows)
  exact ⟨text, htext, hpath⟩

end Waypost
