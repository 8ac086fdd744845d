import Orchestra.Core.Float
import Orchestra.Foundation.Tally
import Mathlib.Data.List.DropRight
import Mathlib.Data.Nat.Log

/-!
# Histograms

A histogram keeps three dictionaries by label values: how many observations fell into each bucket,
which is the first one that is large enough, the sums of the observations and their numbers. The
counts are added up when the histogram is rendered. What is rendered for a key is what the
observations with this key say (`render_observations`).

Values are exact rational numbers. A line shows a sum or a bound as `_fmt` writes it, which keeps
six digits of a number that is not an integer.
-/

namespace Orchestra

open Tally Dictionary

namespace Metrics

/-! ## Numbers and labels in the text format -/

/-- The place of the first digit of a positive number. -/
def decimalExponent (a : ℚ) : ℤ :=
  let e : ℤ := Nat.log 10 a.num.natAbs - Nat.log 10 a.den
  if (10 : ℚ) ^ e ≤ a then e else e - 1

/-- Trailing zeros are dropped, and the point with the last of them. -/
def fraction (digits : List Char) : String :=
  match digits.rdropWhile fun c ↦ c == '0' with
  | [] => ""
  | ds => "." ++ String.ofList ds

/-- `f"{a:g}"` of a positive number: six digits, in positional or scientific notation. -/
def formatGPos (a : ℚ) : String :=
  let e₀ := decimalExponent a
  let n₀ := (FloatModel.roundHalfEven (a * 10 ^ (5 - e₀))).toNat
  -- rounding may add a digit
  let (n, e) := if n₀ = 1000000 then (100000, e₀ + 1) else (n₀, e₀)
  let digits := (toString n).toList
  if -4 ≤ e ∧ e < 6 then
    if 0 ≤ e then
      String.ofList (digits.take (e.toNat + 1)) ++ fraction (digits.drop (e.toNat + 1))
    else "0" ++ fraction (List.replicate (-e - 1).toNat '0' ++ digits)
  else
    String.ofList (digits.take 1) ++ fraction (digits.drop 1) ++ "e" ++
      (if e < 0 then "-" else "+") ++ zeroPad 2 e.natAbs

/-- `f"{a:g}"`. -/
def formatG (a : ℚ) : String :=
  if a = 0 then "0" else if a < 0 then "-" ++ formatGPos (-a) else formatGPos a

/-- `_fmt`, of a number. -/
def fmt (a : ℚ) : String :=
  if a.den = 1 ∧ |a| < 10 ^ 15 then toString a.num else formatG a

/-- `_escape`. -/
def escape (value : String) : String :=
  String.ofList (value.toList.flatMap fun c ↦
    if c = '\\' then ['\\', '\\'] else if c = '"' then ['\\', '"']
    else if c = '\n' then ['\\', 'n'] else [c])

end Metrics

open Metrics

/-- The values of the labels, in the order of the labels. -/
structure LabelKey where
  values : List String
  deriving DecidableEq

/-- `Counter`. -/
structure Counter where
  labels : List String := []
  values : List (LabelKey × ℚ) := []

namespace Counter

/-- `_key`. -/
def key (c : Counter) (labels : List (String × String)) : LabelKey :=
  ⟨c.labels.map fun label ↦ (get labels label).getD ""⟩

/-- `inc`. -/
def inc (c : Counter) (n : ℚ) (labels : List (String × String)) : Counter :=
  { c with values := adjust 0 (· + n) (c.key labels) c.values }

/-- `_values[key]`. -/
def value (c : Counter) (key : LabelKey) : ℚ := (get c.values key).getD 0

theorem value_inc (c : Counter) (n : ℚ) (labels : List (String × String)) (key : LabelKey) :
    (c.inc n labels).value key = c.value key + if c.key labels = key then n else 0 := by
  rw [value, inc, get_adjust, value]
  split_ifs with h
  · rw [h, Option.getD_some]
  · exact (add_zero _).symm

end Counter

/-- `Histogram`. -/
structure Histogram where
  name : String
  help : String
  labels : List String := []
  buckets : List ℚ := [5 / 1000, 1 / 100, 25 / 1000, 5 / 100, 1 / 10, 25 / 100, 5 / 10, 1, 25 / 10,
    5, 10]
  counts : List (LabelKey × List (ℚ × ℕ)) := []
  sums : List (LabelKey × ℚ) := []
  totals : List (LabelKey × ℕ) := []

/-- An observation: a value with labels. -/
structure Observation where
  value : ℚ
  labels : List (String × String)

/-- The last argument of `_format_labels`. -/
inductive LeLabel where
  | absent | inf
  | bound (b : ℚ)

namespace Histogram

/-- `_key`. -/
def key (h : Histogram) (labels : List (String × String)) : LabelKey :=
  ⟨h.labels.map fun label ↦ (get labels label).getD ""⟩

/-- `observe`. -/
def observe (h : Histogram) (o : Observation) : Histogram :=
  let key := h.key o.labels
  { h with
    counts :=
      match h.buckets.find? fun b ↦ decide (o.value ≤ b) with
      | some b => adjust (h.buckets.map fun b ↦ (b, 0)) (adjust 0 (· + 1) b) key h.counts
      | none => h.counts
    sums := adjust 0 (· + o.value) key h.sums
    totals := adjust 0 (· + 1) key h.totals }

/-- `_format_labels`. -/
def formatLabels (h : Histogram) (key : LabelKey) (le : LeLabel) : String :=
  let named := ((h.labels.zip key.values).filter fun p ↦ p.2 != "").map fun p ↦
    p.1 ++ "=\"" ++ escape p.2 ++ "\""
  let parts := named ++
    match le with
    | .absent => []
    | .inf => ["le=\"+Inf\""]
    | .bound b => ["le=\"" ++ fmt b ++ "\""]
  if parts = [] then "" else "\x7b" ++ ",".intercalate parts ++ "\x7d"

def bucketLine (h : Histogram) (key : LabelKey) (le : LeLabel) (count : ℕ) : String :=
  h.name ++ "_bucket" ++ h.formatLabels key le ++ " " ++ toString count

def sumLine (h : Histogram) (key : LabelKey) (sum : ℚ) : String :=
  h.name ++ "_sum" ++ h.formatLabels key .absent ++ " " ++ fmt sum

def countLine (h : Histogram) (key : LabelKey) (total : ℕ) : String :=
  h.name ++ "_count" ++ h.formatLabels key .absent ++ " " ++ toString total

/-- The inner loop of `render`. -/
def bucketLines (h : Histogram) (key : LabelKey) (counts : List (ℚ × ℕ)) :
    (cumulative : ℕ) → List ℚ → List String
  | _, [] => []
  | cumulative, b :: bounds =>
    let cumulative := cumulative + (get counts b).getD 0
    h.bucketLine key (.bound b) cumulative :: bucketLines h key counts cumulative bounds

/-- The lines of one key. -/
def keyLines (h : Histogram) (key : LabelKey) (total : ℕ) : List String :=
  h.bucketLines key ((get h.counts key).getD []) 0 h.buckets ++
    [h.bucketLine key .inf total, h.sumLine key ((get h.sums key).getD 0), h.countLine key total]

/-- The lines about the histogram. -/
def header (h : Histogram) : List String :=
  ["# HELP " ++ h.name ++ " " ++ h.help, "# TYPE " ++ h.name ++ " histogram"]

/-- `render`. -/
def render (h : Histogram) : String :=
  "\n".intercalate (h.header ++ h.totals.flatMap fun p ↦ h.keyLines p.1 p.2) ++ "\n"

/-- A new histogram. -/
structure Empty (h : Histogram) : Prop where
  counts : h.counts = []
  sums : h.sums = []
  totals : h.totals = []

/-! ## What the observations of a key say -/

/-- The values observed with a key. -/
def valuesOf (h : Histogram) (obs : List Observation) (key : LabelKey) : List ℚ :=
  (obs.filter fun o ↦ decide (h.key o.labels = key)).map Observation.value

/-- The lines that a key with these values should have. -/
def expectedLines (h : Histogram) (key : LabelKey) (values : List ℚ) : List String :=
  (h.buckets.map fun b ↦ h.bucketLine key (.bound b) (values.countP fun v ↦ decide (v ≤ b))) ++
    [h.bucketLine key .inf values.length, h.sumLine key values.sum, h.countLine key values.length]

/-- The dictionaries of `h` hold what the values of each key say. -/
structure Tallies (h : Histogram) (values : LabelKey → List ℚ) : Prop where
  nodup : (h.totals.map Prod.fst).Nodup
  totals : ∀ key, get h.totals key = if values key = [] then none else some (values key).length
  sums : ∀ key, (get h.sums key).getD 0 = (values key).sum
  counts : ∀ key b, (get ((get h.counts key).getD []) b).getD 0 =
    (values key).countP fun v ↦ decide (place h.buckets v = some b)

variable {h : Histogram} {values : LabelKey → List ℚ} {o : Observation}

/-- A new dictionary of counts is as good as none. -/
theorem getD_get_zero (bounds : List ℚ) (b : ℚ) :
    (get (bounds.map fun b ↦ (b, 0)) b).getD 0 = 0 := by
  induction bounds with
  | nil => rfl
  | cons c bounds ih =>
    rw [List.map_cons, get_cons]
    split_ifs
    · rfl
    · exact ih

theorem getD_get_getD (counts : Option (List (ℚ × ℕ))) (bounds : List ℚ) (b : ℚ) :
    (get (counts.getD (bounds.map fun b ↦ (b, 0))) b).getD 0 = (get (counts.getD []) b).getD 0 := by
  cases counts with
  | none => exact getD_get_zero bounds b
  | some counts => rfl

/-- **One observation** adds its value to those of its key. -/
theorem Tallies.observe (ht : Tallies h values) (o : Observation) :
    Tallies (h.observe o) fun key ↦
      if h.key o.labels = key then values key ++ [o.value] else values key := by
  constructor
  case nodup => exact nodup_adjust _ _ _ _ ht.nodup
  case totals =>
    intro key
    have hget : get (h.observe o).totals key = if h.key o.labels = key then
        some ((get h.totals (h.key o.labels)).getD 0 + 1) else get h.totals key :=
      get_adjust _ _ _ _ _
    rw [hget]
    split_ifs with hkey hnil
    · exact absurd hnil (List.append_ne_nil_of_right_ne_nil _ (List.cons_ne_nil _ _))
    · rw [hkey, ht.totals]
      split_ifs with hempty
      · rw [hempty]
        rfl
      · rw [Option.getD_some, List.length_append]
        rfl
    · rw [ht.totals, if_pos ‹_›]
    · rw [ht.totals, if_neg ‹_›]
  case sums =>
    intro key
    have hget : get (h.observe o).sums key = if h.key o.labels = key then
        some ((get h.sums (h.key o.labels)).getD 0 + o.value) else get h.sums key :=
      get_adjust _ _ _ _ _
    rw [hget]
    split_ifs with hkey
    · rw [Option.getD_some, hkey, ht.sums, List.sum_append, List.sum_singleton]
    · exact ht.sums key
  case counts =>
    intro key b
    have hold := ht.counts key b
    rw [show (h.observe o).buckets = h.buckets from rfl]
    by_cases hkey : h.key o.labels = key
    · rw [if_pos hkey, List.countP_append, List.countP_singleton, ← hold]
      cases hplace : place h.buckets o.value with
      | none =>
        -- a value above all bounds is in no bucket
        have hfind : h.buckets.find? (fun b ↦ decide (o.value ≤ b)) = none := hplace
        simp only [Histogram.observe, hfind]
        rfl
      | some c =>
        have hfind : h.buckets.find? (fun b ↦ decide (o.value ≤ b)) = some c := hplace
        simp only [Histogram.observe, hfind]
        rw [get_adjust, if_pos hkey, Option.getD_some, get_adjust, hkey]
        by_cases hc : c = b
        · subst hc
          rw [if_pos rfl, Option.getD_some, getD_get_getD]
          simp
        · rw [if_neg hc, getD_get_getD]
          simp [hc]
    · rw [if_neg hkey, ← hold]
      cases hfind : h.buckets.find? (fun b ↦ decide (o.value ≤ b)) with
      | none => simp only [Histogram.observe, hfind]
      | some c =>
        simp only [Histogram.observe, hfind]
        rw [get_adjust, if_neg hkey]

/-! ## Rendering -/

variable {obs : List Observation} {key : LabelKey}

theorem valuesOf_concat (h : Histogram) (obs : List Observation) (o : Observation)
    (key : LabelKey) : h.valuesOf (obs ++ [o]) key =
      if h.key o.labels = key then h.valuesOf obs key ++ [o.value] else h.valuesOf obs key := by
  rw [valuesOf, List.filter_append, List.map_append, ← valuesOf]
  split_ifs with hkey
  · simp [hkey]
  · simp [hkey]

theorem valuesOf_eq_nil_iff :
    h.valuesOf obs key = [] ↔ ¬∃ o ∈ obs, h.key o.labels = key := by
  rw [valuesOf, List.map_eq_nil_iff, List.filter_eq_nil_iff]
  simp

/-- What `observe` does not change. -/
structure SameShape (h h' : Histogram) : Prop where
  name : h.name = h'.name
  help : h.help = h'.help
  labels : h.labels = h'.labels
  buckets : h.buckets = h'.buckets

/-- **All observations**: the dictionaries hold what the values of each key say. -/
theorem tallies_foldl (hempty : h.Empty) (obs : List Observation) :
    SameShape (obs.foldl observe h) h ∧ Tallies (obs.foldl observe h) (h.valuesOf obs) := by
  induction obs using List.reverseRecOn with
  | nil =>
    refine ⟨⟨rfl, rfl, rfl, rfl⟩, ?_⟩
    rw [List.foldl_nil]
    constructor
    case nodup => rw [hempty.totals]; exact List.nodup_nil
    case totals => intro key; rw [hempty.totals]; rfl
    case sums => intro key; rw [hempty.sums]; rfl
    case counts => intro key b; rw [hempty.counts]; rfl
  | append_singleton obs o ih =>
    obtain ⟨hshape, htallies⟩ := ih
    rw [List.foldl_append, List.foldl_cons, List.foldl_nil]
    refine ⟨⟨hshape.name, hshape.help, hshape.labels, hshape.buckets⟩, ?_⟩
    have hkey (labels : List (String × String)) :
        (obs.foldl observe h).key labels = h.key labels := by
      rw [Histogram.key, hshape.labels, Histogram.key]
    have hnext := htallies.observe o
    simp only [hkey] at hnext
    have hvalues : h.valuesOf (obs ++ [o]) = fun key ↦
        if h.key o.labels = key then h.valuesOf obs key ++ [o.value] else h.valuesOf obs key := by
      funext key
      exact valuesOf_concat h obs o key
    rw [hvalues]
    exact hnext

/-- The counts are added up bucket by bucket. -/
theorem bucketLines_eq (pre : List ℚ) {post : List ℚ} {counts : List (ℚ × ℕ)} {values : List ℚ}
    (h : Histogram) (key : LabelKey) (hascending : (pre ++ post).Pairwise (· < ·))
    (hcounts : ∀ b, (get counts b).getD 0 =
      values.countP fun v ↦ decide (place (pre ++ post) v = some b)) :
    h.bucketLines key counts (pre.map fun b ↦ (get counts b).getD 0).sum post =
      post.map fun b ↦ h.bucketLine key (.bound b) (values.countP fun v ↦ decide (v ≤ b)) := by
  -- the running count is that of the values up to the last bound of `pre`
  induction post generalizing pre with
  | nil => rfl
  | cons b post ih =>
    have hsum : (pre.map fun b ↦ (get counts b).getD 0).sum + (get counts b).getD 0 =
        ((pre ++ [b]).map fun b ↦ (get counts b).getD 0).sum := by
      rw [List.map_append, List.sum_append, List.map_singleton, List.sum_singleton]
    have hcount : ((pre ++ [b]).map fun b ↦ (get counts b).getD 0).sum =
        values.countP fun v ↦ decide (v ≤ b) := by
      simp only [hcounts]
      exact sum_countP_place hascending values
    rw [bucketLines, hsum, List.map_cons, ih, hcount]
    · rwa [List.append_cons] at hascending
    · intro c
      rw [hcounts, List.append_cons]

/-- The lines of a key that was observed. -/
theorem Tallies.keyLines_eq (ht : Tallies h values) (hascending : h.buckets.Pairwise (· < ·))
    (key : LabelKey) : h.keyLines key (values key).length = h.expectedLines key (values key) := by
  have hlines := bucketLines_eq [] h key hascending (ht.counts key)
  rw [keyLines, expectedLines, ht.sums, ← hlines]
  rfl

theorem expectedLines_of_sameShape {h' : Histogram} (hs : SameShape h h') (key : LabelKey)
    (vs : List ℚ) : h.expectedLines key vs = h'.expectedLines key vs := by
  obtain ⟨hname, hhelp, hlabels, hbuckets⟩ := hs
  simp only [expectedLines, bucketLine, sumLine, countLine, formatLabels, hname, hlabels, hbuckets]

/-- **What is rendered.** After any observations, there are the lines about the histogram, and then,
for each key that was observed and for no other, the lines that the values of the key say. Their
bucket counts do not fall. -/
theorem render_observations (h : Histogram) (hempty : h.Empty)
    (hascending : h.buckets.Pairwise (· < ·)) (obs : List Observation) :
    ∃ keys : List LabelKey, keys.Nodup ∧
      (∀ key, key ∈ keys ↔ ∃ o ∈ obs, h.key o.labels = key) ∧
      (obs.foldl observe h).render = "\n".intercalate (h.header ++
        keys.flatMap fun key ↦ h.expectedLines key (h.valuesOf obs key)) ++ "\n" ∧
      ∀ key, (h.buckets.map fun b ↦
        (h.valuesOf obs key).countP fun v ↦ decide (v ≤ b)).Pairwise (· ≤ ·) := by
  obtain ⟨hshape, ht⟩ := tallies_foldl hempty obs
  refine ⟨(obs.foldl observe h).totals.map Prod.fst, ht.nodup, fun key ↦ ?_, ?_,
    fun key ↦ pairwise_countP_le hascending _⟩
  · rw [← not_iff_not, ← get_eq_none_iff, ht.totals, ← valuesOf_eq_nil_iff]
    exact ite_eq_left_iff.trans (not_imp_comm.trans (by simp))
  · have hlines : ∀ p ∈ (obs.foldl observe h).totals, (obs.foldl observe h).keyLines p.1 p.2 =
        h.expectedLines p.1 (h.valuesOf obs p.1) := by
      intro p hp
      have hget := (get_eq_some_iff ht.nodup).mpr (show (p.1, p.2) ∈ _ from hp)
      rw [ht.totals] at hget
      split_ifs at hget
      rw [← Option.some.inj hget, ht.keyLines_eq (hshape.buckets ▸ hascending),
        expectedLines_of_sameShape hshape]
    have hheader : (obs.foldl observe h).header = h.header := by
      rw [header, hshape.name, hshape.help, header]
    rw [render, hheader, List.flatMap_map, List.flatMap_congr hlines]

/-! ### A histogram with three buckets -/

def latency : Histogram where
  name := "h1"
  help := "latency"
  labels := ["method"]
  buckets := [1 / 10, 1 / 2, 1]

/-- One value is above all buckets, and one has a label. -/
def latencies : List Observation :=
  [⟨5 / 100, []⟩, ⟨2 / 10, []⟩, ⟨6 / 10, [("method", "GET")]⟩, ⟨2, []⟩]

theorem render_latencies :
    ∃ keys : List LabelKey, keys.Nodup ∧
      (∀ key, key ∈ keys ↔ ∃ o ∈ latencies, latency.key o.labels = key) ∧
      (latencies.foldl observe latency).render = "\n".intercalate (latency.header ++
        keys.flatMap fun key ↦ latency.expectedLines key (latency.valuesOf latencies key)) ++ "\n" ∧
      ∀ key, (latency.buckets.map fun b ↦
        (latency.valuesOf latencies key).countP fun v ↦ decide (v ≤ b)).Pairwise (· ≤ ·) :=
  render_observations latency ⟨rfl, rfl, rfl⟩ (by norm_num [latency]) latencies

end Histogram

end Orchestra
