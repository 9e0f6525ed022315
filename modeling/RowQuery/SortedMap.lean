namespace RowQuery

/-- A strict total order of keys, with the test that decides it. -/
class KeyOrder (K : Type) where
  before : K → K → Bool
  irrefl : ∀ a, before a a = false
  trans : ∀ a b c, before a b = true → before b c = true → before a c = true
  eq_of_not_before : ∀ a b, before a b = false → before b a = false → a = b

namespace KeyOrder

/-- Text is ordered by its bytes in UTF-8. -/
def textBytes (s : String) : List UInt8 := s.toUTF8.data.toList

theorem textBytes_injective {s t : String} (h : textBytes s = textBytes t) : s = t :=
  String.toByteArray_inj.mp (ByteArray.ext (Array.toList_inj.mp h))

instance : KeyOrder String where
  before s t := decide (textBytes s < textBytes t)
  irrefl s := by simp
  trans s t u hst htu := by
    simp only [decide_eq_true_eq] at *
    exact List.lt_trans hst htu
  eq_of_not_before s t hst hts := by
    simp only [decide_eq_false_iff_not] at *
    exact textBytes_injective (List.le_antisymm (List.not_lt.mp hts) (List.not_lt.mp hst))

instance : KeyOrder Int where
  before a b := decide (a < b)
  irrefl a := by simp
  trans a b c hab hbc := by
    simp only [decide_eq_true_eq] at *
    omega
  eq_of_not_before a b hab hba := by
    simp only [decide_eq_false_iff_not] at *
    omega

end KeyOrder

/-- Each key holds one value, and entries are kept in increasing order of their keys. -/
structure SortedMap (K A : Type) [KeyOrder K] where
  entries : List (K × A)
  sorted : entries.Pairwise (fun p q => KeyOrder.before p.1 q.1 = true)

namespace SortedMap

variable {K A B : Type} [KeyOrder K]

/-- Write one entry into a sorted list, over an entry with the same key if there is one. -/
def place (k : K) (a : A) : List (K × A) → List (K × A)
  | [] => [(k, a)]
  | e :: rest =>
    if KeyOrder.before k e.1 then (k, a) :: e :: rest
    else if KeyOrder.before e.1 k then e :: place k a rest
    else (k, a) :: rest

theorem mem_place {k : K} {a : A} {e : K × A} {es : List (K × A)} (h : e ∈ place k a es) :
    e = (k, a) ∨ e ∈ es := by
  induction es with
  | nil => simpa [place] using h
  | cons x rest ih =>
    grind [place]

theorem sorted_place (k : K) (a : A) {es : List (K × A)}
    (h : es.Pairwise (fun p q => KeyOrder.before p.1 q.1 = true)) :
    (place k a es).Pairwise (fun p q => KeyOrder.before p.1 q.1 = true) := by
  induction es with
  | nil => simp [place]
  | cons x rest ih =>
    obtain ⟨hx, hrest⟩ := List.pairwise_cons.mp h
    unfold place
    split
    · rename_i hk
      refine List.pairwise_cons.mpr ⟨fun e he => ?_, h⟩
      rcases List.mem_cons.mp he with rfl | he
      · exact hk
      · exact KeyOrder.trans _ _ _ hk (hx e he)
    · split
      · rename_i hk
        refine List.pairwise_cons.mpr ⟨fun e he => ?_, ih hrest⟩
        rcases mem_place he with rfl | he
        · exact hk
        · exact hx e he
      · rename_i hk hk'
        have hkx : k = x.1 :=
          KeyOrder.eq_of_not_before k x.1 (by simpa using hk) (by simpa using hk')
        exact List.pairwise_cons.mpr ⟨fun e he => hkx ▸ hx e he, hrest⟩

def empty : SortedMap K A := ⟨[], List.Pairwise.nil⟩

def insert (m : SortedMap K A) (k : K) (a : A) : SortedMap K A :=
  ⟨place k a m.entries, sorted_place k a m.sorted⟩

/-- Entries written one after another, so the last one of a key is kept. -/
def ofList (es : List (K × A)) : SortedMap K A :=
  es.foldl (fun m e => m.insert e.1 e.2) empty

def isEmpty (m : SortedMap K A) : Bool := m.entries.isEmpty

def keys (m : SortedMap K A) : List K := m.entries.map (·.1)

def map (f : A → B) (m : SortedMap K A) : SortedMap K B :=
  ⟨m.entries.map (fun e => (e.1, f e.2)), List.pairwise_map.mpr m.sorted⟩

theorem ext {m n : SortedMap K A} (h : m.entries = n.entries) : m = n := by
  cases m
  cases n
  cases h
  rfl

end SortedMap

end RowQuery
