import SecondDisplay.Net.Pong

/-!
# The sender's own messages (`SerializeWelcome` and `SerializeSenderPing`)

A ping of the sender carries those statistics that it has, as members of one object
(`senderPingText_render`), and whatever they are, it is a control payload (`isControlPayload_ping`).
-/

namespace SecondDisplay.SenderPing

open SecondDisplay.JsonText SecondDisplay.Protocol SecondDisplay.Config SecondDisplay.Pong

variable {D : Type} (doubles : Doubles D)

/-! ### Messages -/

/-- `SerializeWelcome`. -/
def serializeWelcome : Bytes := ascii "\x7b\"type\":\"welcome\",\"pv\":3,\"min\":1\x7d"

/-- `SenderPingStats`. -/
structure SenderPingStats (D : Type) where
  drops : Option UInt64 := none
  encDrops : Option UInt64 := none
  netDrops : Option UInt64 := none
  pending : Option UInt64 := none
  inp50 : Option D := none
  inp95 : Option D := none
  capFps : Option D := none

/-- `to_chars` for a finite `double`, with 17 digits and into a buffer of 64 bytes: a JSON number,
or `none` for an error. -/
structure DoubleChars (D : Type) where
  toChars : D → Option NumberText
  length_le : ∀ value n, toChars value = some n → n.render.length ≤ 64

variable (chars : DoubleChars D)

/-- What both functions append for a number. -/
def appendNumber (json key number : Bytes) : Bytes :=
  json ++ (ascii ",\"" ++ (key ++ (ascii "\":" ++ number)))

/-- `AppendIntegerField`. -/
def appendIntegerField (json key : Bytes) (value : Option UInt64) : Bytes :=
  match value with
  | none => json
  | some value => appendNumber json key (decimal value.toNat)

/-- `AppendDoubleField`. -/
def appendDoubleField (json key : Bytes) (value : Option D) : Bytes :=
  match value with
  | none => json
  | some value =>
    if doubles.isFinite value = false then json
    else
      match chars.toChars value with
      | none => json
      | some number => appendNumber json key number.render

/-- `SerializeSenderPing`. -/
def serializeSenderPing (stats : SenderPingStats D) : Bytes :=
  let json := ascii "\x7b\"type\":\"ping\""
  let json := appendIntegerField json (ascii "drops") stats.drops
  let json := appendIntegerField json (ascii "encDrops") stats.encDrops
  let json := appendIntegerField json (ascii "netDrops") stats.netDrops
  let json := appendIntegerField json (ascii "pending") stats.pending
  let json := appendDoubleField doubles chars json (ascii "inp50") stats.inp50
  let json := appendDoubleField doubles chars json (ascii "inp95") stats.inp95
  let json := appendDoubleField doubles chars json (ascii "capFps") stats.capFps
  json ++ [0x7D]

/-! ### The members of a ping -/

/-- The number of a statistic that is an integer. -/
def integerNumber (value : Option UInt64) : Option NumberText :=
  value.map fun value => decimalText value.toNat

/-- The number of a statistic that is a `double`. -/
def doubleNumber (value : Option D) : Option NumberText :=
  value.bind fun value => if doubles.isFinite value then chars.toChars value else none

/-- The keys of a ping, each with its number if there is one. -/
def numbers (stats : SenderPingStats D) : List (Bytes × Option NumberText) :=
  [(ascii "drops", integerNumber stats.drops), (ascii "encDrops", integerNumber stats.encDrops),
    (ascii "netDrops", integerNumber stats.netDrops),
    (ascii "pending", integerNumber stats.pending),
    (ascii "inp50", doubleNumber doubles chars stats.inp50),
    (ascii "inp95", doubleNumber doubles chars stats.inp95),
    (ascii "capFps", doubleNumber doubles chars stats.capFps)]

/-- What is appended for a key. -/
def numberText (entry : Bytes × Option NumberText) : Bytes :=
  match entry.2 with
  | none => []
  | some n => appendNumber [] entry.1 n.render

/-- Some keys with their numbers as members. -/
def membersOf : List (Bytes × Option NumberText) → Members
  | [] => .nil
  | (_, none) :: rest => membersOf rest
  | (key, some n) :: rest =>
    .cons .none (escapeText key) .none .none (.number n) .none (membersOf rest)

/-- A ping as an object. -/
def senderPingText (stats : SenderPingStats D) : Text :=
  ⟨.none, .object .none (.cons .none (escapeText (ascii "type")) .none .none
    (.string (escapeText (ascii "ping"))) .none (membersOf (numbers doubles chars stats))), .none⟩

/-! ### The text of a ping -/

theorem appendIntegerField_eq (json key : Bytes) (value : Option UInt64) :
    appendIntegerField json key value = json ++ numberText (key, integerNumber value) := by
  cases value with
  | none => exact (List.append_nil json).symm
  | some value =>
    have hrender : (decimalText value.toNat).render = decimal value.toNat := by
      rw [decimalText_render, decimalInt_nat]
    show appendNumber json key _ = json ++ appendNumber [] key _
    rw [hrender]
    rfl

theorem appendDoubleField_eq (json key : Bytes) (value : Option D) :
    appendDoubleField doubles chars json key value =
      json ++ numberText (key, doubleNumber doubles chars value) := by
  cases value with
  | none => exact (List.append_nil json).symm
  | some value =>
    rw [appendDoubleField, doubleNumber, Option.bind_some]
    cases doubles.isFinite value with
    | false => exact (List.append_nil json).symm
    | true =>
      rw [if_neg (by decide), if_pos rfl]
      cases chars.toChars value with
      | none => exact (List.append_nil json).symm
      | some n => rfl

theorem serializeSenderPing_eq (stats : SenderPingStats D) :
    serializeSenderPing doubles chars stats = ascii "\x7b\"type\":\"ping\"" ++
      ((numbers doubles chars stats).flatMap numberText ++ [0x7D]) := by
  simp only [serializeSenderPing, appendIntegerField_eq, appendDoubleField_eq, numbers,
    List.flatMap_cons, List.flatMap_nil, List.append_nil, List.append_assoc]

/-- A key that is written as it is. -/
def PlainKey (key : Bytes) : Prop := escapeJson key = key

/-- The text of members, with the comma in front of them. -/
theorem membersOf_render (entries : List (Bytes × Option NumberText))
    (hplain : ∀ entry ∈ entries, PlainKey entry.1) :
    (membersOf entries).separator ++ (membersOf entries).render =
      entries.flatMap numberText := by
  induction entries with
  | nil => rfl
  | cons entry rest ih =>
    obtain ⟨key, number⟩ := entry
    have hrest := ih fun entry hmem => hplain entry (List.mem_cons_of_mem _ hmem)
    rw [List.flatMap_cons, ← hrest]
    cases number with
    | none => rfl
    | some n =>
      have hkey : StringText.raw (escapeText key) = key := by
        rw [escapeText_raw]
        exact hplain (key, some n) List.mem_cons_self
      simp only [membersOf, Members.separator, Members.render, Value.render, StringText.render,
        hkey, numberText, appendNumber, Ws.none, List.nil_append, List.append_nil,
        List.append_assoc, List.cons_append]
      rfl

/-- The keys of a ping. -/
def kKeys : List Bytes :=
  [ascii "drops", ascii "encDrops", ascii "netDrops", ascii "pending", ascii "inp50",
    ascii "inp95", ascii "capFps"]

theorem numbers_keys (stats : SenderPingStats D) :
    (numbers doubles chars stats).map Prod.fst = kKeys := rfl

theorem mem_kKeys {stats : SenderPingStats D} {entry : Bytes × Option NumberText}
    (h : entry ∈ numbers doubles chars stats) : entry.1 ∈ kKeys := by
  rw [← numbers_keys doubles chars stats]
  exact List.mem_map_of_mem h

theorem plainKey_numbers (stats : SenderPingStats D) :
    ∀ entry ∈ numbers doubles chars stats, PlainKey entry.1 := by
  have hkeys : ∀ key ∈ kKeys, escapeJson key = key := by decide +kernel
  intro entry hmem
  exact hkeys entry.1 (mem_kKeys doubles chars hmem)

/-- **A ping is an object.** -/
theorem senderPingText_render (stats : SenderPingStats D) :
    (senderPingText doubles chars stats).render = serializeSenderPing doubles chars stats := by
  have hmembers := membersOf_render _ (plainKey_numbers doubles chars stats)
  have htype : StringText.render (escapeText (ascii "type")) = ascii "\"type\"" := by decide
  have hping : StringText.render (escapeText (ascii "ping")) = ascii "\"ping\"" := by decide
  have hfront : ascii "\x7b\"type\":\"ping\"" =
      0x7B :: (ascii "\"type\"" ++ 0x3A :: ascii "\"ping\"") := by decide
  rw [serializeSenderPing_eq, ← hmembers, hfront]
  simp only [Text.render, senderPingText, Value.render, Members.render, Ws.none, htype, hping,
    List.nil_append, List.append_nil, List.append_assoc, List.cons_append]

/-! ### The size of a ping -/

theorem decimal_length_le {k n : Nat} (h : n < 10 ^ (k + 1)) : (decimal n).length ≤ k + 1 := by
  induction k generalizing n with
  | zero =>
    have hsmall : n < 10 := h
    rw [decimal, if_pos hsmall]
    exact Nat.le_refl 1
  | succ k ih =>
    rw [decimal]
    split
    · exact Nat.le_add_left 1 (k + 1)
    · have hstart := @ih (n / 10) (by rw [pow_succ] at h; omega)
      rw [List.length_append, List.length_singleton]
      omega

/-- No number of a ping is longer than the larger buffer. -/
theorem numbers_length (stats : SenderPingStats D) :
    ∀ entry ∈ numbers doubles chars stats, ∀ n ∈ entry.2, n.render.length ≤ 64 := by
  have hinteger : ∀ value : Option UInt64, ∀ n ∈ integerNumber value, n.render.length ≤ 64 := by
    intro value n hn
    obtain ⟨value, -, rfl⟩ := Option.map_eq_some_iff.1 hn
    have hbound : value.toNat < 10 ^ 20 := Nat.lt_of_lt_of_le value.toNat_lt (by decide)
    have hlength := @decimal_length_le 19 value.toNat hbound
    rw [decimalText_render, decimalInt_nat]
    omega
  have hdouble : ∀ value : Option D, ∀ n ∈ doubleNumber doubles chars value,
      n.render.length ≤ 64 := by
    intro value n hn
    obtain ⟨value, -, hvalue⟩ := Option.bind_eq_some_iff.1 hn
    split at hvalue
    · exact chars.length_le value n hvalue
    · cases hvalue
  intro entry hentry
  simp only [numbers, List.mem_cons, List.not_mem_nil, or_false] at hentry
  obtain rfl | rfl | rfl | rfl | rfl | rfl | rfl := hentry
  · exact hinteger stats.drops
  · exact hinteger stats.encDrops
  · exact hinteger stats.netDrops
  · exact hinteger stats.pending
  · exact hdouble stats.inp50
  · exact hdouble stats.inp95
  · exact hdouble stats.capFps

theorem numberText_length {entry : Bytes × Option NumberText} (hkey : entry.1.length ≤ 8)
    (hnumber : ∀ n ∈ entry.2, n.render.length ≤ 64) : (numberText entry).length ≤ 76 := by
  obtain ⟨key, number⟩ := entry
  cases number with
  | none => exact Nat.zero_le 76
  | some n =>
    have hn : n.render.length ≤ 64 := hnumber n rfl
    have hquote : (ascii ",\"").length = 2 := rfl
    have hcolon : (ascii "\":").length = 2 := rfl
    have hle : key.length ≤ 8 := hkey
    simp only [numberText, appendNumber, List.nil_append, List.length_append, hquote, hcolon]
    omega

theorem kKeys_bytes : ∀ key ∈ kKeys, key.length ≤ 8 ∧ (0 : UInt8) ∉ key := by decide

/-- Text that is put together from pieces of bounded length is bounded. -/
theorem flatMap_length_le {α : Type} {f : α → Bytes} {bound : Nat} {entries : List α}
    (h : ∀ entry ∈ entries, (f entry).length ≤ bound) :
    (entries.flatMap f).length ≤ entries.length * bound := by
  induction entries with
  | nil => exact Nat.zero_le _
  | cons entry rest ih =>
    have hfirst := h entry List.mem_cons_self
    have hrest := ih fun entry hmem => h entry (List.mem_cons_of_mem _ hmem)
    rw [List.flatMap_cons, List.length_append, List.length_cons, Nat.succ_mul]
    omega

theorem zero_notMem_numberText {entry : Bytes × Option NumberText} (h : (0 : UInt8) ∉ entry.1) :
    (0 : UInt8) ∉ numberText entry := by
  obtain ⟨key, number⟩ := entry
  cases number with
  | none => exact List.not_mem_nil
  | some n =>
    simp only [numberText, appendNumber, List.nil_append, List.mem_append, not_or]
    exact ⟨by decide, h, by decide, zero_notMem_render n⟩

/-- **Every ping of the sender is a control payload,** whatever the statistics. -/
theorem isControlPayload_ping (stats : SenderPingStats D) :
    isControlPayload (serializeSenderPing doubles chars stats) = true := by
  have hfront : (ascii "\x7b\"type\":\"ping\"").length = 14 := by decide
  have hlength := @flatMap_length_le _ numberText 76 (numbers doubles chars stats)
    fun entry hentry => numberText_length (kKeys_bytes _ (mem_kKeys doubles chars hentry)).1
      (numbers_length doubles chars stats entry hentry)
  have hcount : (numbers doubles chars stats).length = 7 := rfl
  rw [serializeSenderPing_eq, isControlPayload_eq_true_iff]
  refine ⟨?_, rfl, ?_⟩
  · simp only [List.length_append, hfront, List.length_singleton]
    omega
  · simp only [List.mem_append, not_or]
    refine ⟨by decide, ?_, by decide⟩
    intro hmem
    obtain ⟨entry, hentry, hzero⟩ := List.mem_flatMap.1 hmem
    exact zero_notMem_numberText (kKeys_bytes _ (mem_kKeys doubles chars hentry)).2 hzero

/-! ### The members of a ping by their keys -/

/-- The first member of a key has the number of that key. -/
theorem find_membersOf {entries : List (Bytes × Option NumberText)}
    (hplain : ∀ entry ∈ entries, PlainKey entry.1) (hnodup : (entries.map Prod.fst).Nodup)
    (key : Bytes) (value : Value) :
    ((membersOf entries).find key).map Prod.snd = some value ↔
      ∃ n, (key, some n) ∈ entries ∧ value = .number n := by
  induction entries with
  | nil => simp [membersOf, Members.find]
  | cons entry rest ih =>
    obtain ⟨own, number⟩ := entry
    obtain ⟨hfresh, hrest⟩ := List.nodup_cons.1 hnodup
    have hlater := ih (fun entry hmem => hplain entry (List.mem_cons_of_mem _ hmem)) hrest
    have hraw : StringText.raw (escapeText own) = own := by
      rw [escapeText_raw]
      exact hplain (own, number) List.mem_cons_self
    cases number with
    | none =>
      rw [membersOf, hlater]
      simp
    | some m =>
      rw [membersOf, Members.find, hraw]
      by_cases hsame : own = key
      · subst hsame
        have hno : ∀ n, (own, some n) ∉ rest := fun n hmem =>
          hfresh (List.mem_map.2 ⟨_, hmem, rfl⟩)
        simp [hno, eq_comm]
      · rw [if_neg hsame, Option.map_map]
        have hsnd : ∀ found : Option (Bytes × Value), ∀ f : Bytes × Value → Bytes,
            (found.map (Prod.snd ∘ fun x => (f x, x.2))) = found.map Prod.snd := fun _ _ => rfl
        rw [hsnd, hlater]
        simp [Ne.symm hsame]

end SecondDisplay.SenderPing
