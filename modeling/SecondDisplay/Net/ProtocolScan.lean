import SecondDisplay.Library.JsonText
import SecondDisplay.Net.Protocol
import Mathlib.Data.List.Induction

/-!
# The field scanner agrees with JSON

`FindValueStart` never builds a tree.  On the text of a JSON object it still finds the value of
the first root member with the wanted name: below the root every value is stepped over whole
(`skips_value`), at the root a string counts as a name exactly where a name can stand, and the
walk over the members follows `Members.find` (`findFrom_members`).
-/

namespace SecondDisplay.Protocol

open SecondDisplay.JsonText

/-! ### Reading at a position -/

theorem getElem?_at (before rest : Bytes) (c : UInt8) :
    (before ++ c :: rest)[before.length]? = some c := by
  simp

theorem getElem_at {json before rest : Bytes} {c : UInt8} (h : json = before ++ c :: rest)
    (hlt : before.length < json.length) : json[before.length] = c := by
  subst h
  simp

theorem length_lt {json before rest : Bytes} {c : UInt8} (h : json = before ++ c :: rest) :
    before.length < json.length := by
  rw [h, List.length_append, List.length_cons]
  omega

theorem length_snoc (before : Bytes) (c : UInt8) :
    before.length + 1 = (before ++ [c]).length := by
  simp

/-- `substr` cuts out the middle of three parts. -/
theorem substr_middle (before middle rest : Bytes) :
    substr (before ++ (middle ++ rest)) before.length (before ++ middle).length = middle := by
  rw [substr, List.drop_left, List.length_append, Nat.add_sub_cancel_left, List.take_left]

/-- What stops a loop over `p`: the end of the text or another byte. -/
def Stops (p : UInt8 → Bool) : Bytes → Prop
  | [] => True
  | c :: _ => p c = false

theorem skipWhile_stop {p : UInt8 → Bool} {json before rest : Bytes}
    (h : json = before ++ rest) (hrest : Stops p rest) :
    skipWhile p json before.length = before.length := by
  cases rest with
  | nil =>
    rw [List.append_nil] at h
    rw [skipWhile, dif_neg (by rw [h]; exact Nat.lt_irrefl _)]
  | cons c rest =>
    have hc : p c = false := hrest
    rw [skipWhile, dif_pos (length_lt h), getElem_at h, if_neg (by rw [hc]; simp)]

/-- **A skipping loop** goes over the bytes it accepts and stays at the first other one. -/
theorem skipWhile_over {p : UInt8 → Bool} {json before run rest : Bytes}
    (h : json = before ++ (run ++ rest)) (hrun : ∀ b ∈ run, p b = true) (hrest : Stops p rest) :
    skipWhile p json before.length = (before ++ run).length := by
  induction run generalizing before with
  | nil => rw [List.append_nil]; exact skipWhile_stop h hrest
  | cons c run ih =>
    have hnext : json = (before ++ [c]) ++ (run ++ rest) := by rw [h]; simp
    have hlen : (before ++ [c]).length = before.length + 1 := by simp
    rw [skipWhile, dif_pos (length_lt h), getElem_at h, if_pos (hrun c List.mem_cons_self),
      ← hlen, ih hnext (fun b hb => hrun b (List.mem_cons_of_mem c hb))]
    simp

/-- The backward loop stops behind the last byte that is not whitespace. -/
theorem skipSpaceBack_over {json front rest : Bytes} {c : UInt8} {root : Nat} (ws : Bytes)
    (h : json = front ++ c :: (ws ++ rest)) (hws : ∀ b ∈ ws, isSpace b = true)
    (hc : isSpace c = false) (hroot : root ≤ front.length) :
    skipSpaceBack json root (front ++ c :: ws).length = front.length + 1 := by
  induction ws using List.reverseRecOn generalizing rest with
  | nil =>
    have hread : json[front.length]? = some c := by rw [h]; simp
    rw [List.length_append, List.length_singleton, skipSpaceBack, if_neg]
    rw [hread, Option.any_some, hc]
    simp
  | append_singleton ws b ih =>
    have hb : isSpace b = true := hws b (by simp)
    have hread : json[(front ++ c :: ws).length]? = some b := by rw [h]; simp
    have hlen : (front ++ c :: (ws ++ [b])).length = (front ++ c :: ws).length + 1 := by
      simp only [List.length_append, List.length_cons, List.length_nil]
      omega
    rw [hlen, skipSpaceBack, if_pos]
    · have hnext : json = front ++ c :: (ws ++ (b :: rest)) := by rw [h]; simp
      exact ih hnext fun x hx => hws x (by simp [hx])
    · rw [hread, Option.any_some]
      refine ⟨?_, hb⟩
      rw [List.length_append]
      omega

/-! ### Strings -/

/-- An item that is an escape. -/
def isEscape : StringItem → Bool
  | .plain .. => false
  | .short .. => true
  | .unicode .. => true

theorem plain_ne_quote : ∀ b, isPlain b = true → b ≠ 0x22 ∧ b ≠ 0x5C :=
  fun _ h => ⟨ne_of_class h rfl, ne_of_class h rfl⟩

theorem hexDigit_ne_quote : ∀ b, isHexDigit b = true → b ≠ 0x22 ∧ b ≠ 0x5C :=
  fun _ h => ⟨ne_of_class h rfl, ne_of_class h rfl⟩

/-- One plain byte of a string. -/
theorem stringEndFrom_plain {json before rest : Bytes} {c : UInt8} {e : Bool}
    (h : json = before ++ c :: rest) (hc : c ≠ 0x22 ∧ c ≠ 0x5C) :
    stringEndFrom json before.length false e =
      stringEndFrom json (before ++ [c]).length false e := by
  rw [stringEndFrom, dif_pos (length_lt h), if_neg (by simp), getElem_at h, if_neg hc.2,
    if_neg hc.1, List.length_append, List.length_singleton]

/-- A backslash and the byte behind it. -/
theorem stringEndFrom_escape {json before rest : Bytes} {c : UInt8} {e : Bool}
    (h : json = before ++ 0x5C :: c :: rest) :
    stringEndFrom json before.length false e =
      stringEndFrom json (before ++ [0x5C, c]).length false true := by
  have hnext : json = (before ++ [0x5C]) ++ c :: rest := by rw [h]; simp
  have hlen : (before ++ [0x5C]).length = before.length + 1 := by simp
  have hlen' : (before ++ [0x5C, c]).length = before.length + 1 + 1 := by simp
  rw [stringEndFrom, dif_pos (length_lt h), if_neg (by simp), getElem_at h, if_pos rfl, ← hlen,
    stringEndFrom, dif_pos (length_lt hnext), if_pos rfl, hlen, hlen']

/-- One item of a string. -/
theorem stringEndFrom_item {json before rest : Bytes} {e : Bool} (item : StringItem)
    (h : json = before ++ (item.render ++ rest)) :
    stringEndFrom json before.length false e =
      stringEndFrom json (before ++ item.render).length false (e || isEscape item) := by
  cases item with
  | plain b ok =>
    rw [isEscape, Bool.or_false]
    exact stringEndFrom_plain h (plain_ne_quote b ok)
  | short letter ok =>
    rw [isEscape, Bool.or_true]
    exact stringEndFrom_escape h
  | unicode h0 h1 h2 h3 ok =>
    simp only [Bool.and_eq_true] at ok
    obtain ⟨⟨⟨ok0, ok1⟩, ok2⟩, ok3⟩ := ok
    have step0 : json = (before ++ [0x5C, 0x75]) ++ h0 :: ([h1, h2, h3] ++ rest) := by
      rw [h]; simp [StringItem.render]
    have step1 : json = (before ++ [0x5C, 0x75] ++ [h0]) ++ h1 :: ([h2, h3] ++ rest) := by
      rw [h]; simp [StringItem.render]
    have step2 : json = (before ++ [0x5C, 0x75] ++ [h0] ++ [h1]) ++ h2 :: (h3 :: rest) := by
      rw [h]; simp [StringItem.render]
    have step3 : json = (before ++ [0x5C, 0x75] ++ [h0] ++ [h1] ++ [h2]) ++ h3 :: rest := by
      rw [h]; simp [StringItem.render]
    rw [isEscape, Bool.or_true, stringEndFrom_escape h,
      stringEndFrom_plain step0 (hexDigit_ne_quote h0 ok0),
      stringEndFrom_plain step1 (hexDigit_ne_quote h1 ok1),
      stringEndFrom_plain step2 (hexDigit_ne_quote h2 ok2),
      stringEndFrom_plain step3 (hexDigit_ne_quote h3 ok3)]
    simp [StringItem.render]

/-- **The string loop** ends at the closing quote. -/
theorem stringEndFrom_raw (s : StringText) {json before rest : Bytes} {e : Bool}
    (h : json = before ++ (StringText.raw s ++ 0x22 :: rest)) :
    stringEndFrom json before.length false e =
      some ((before ++ StringText.raw s).length, e || s.any isEscape) := by
  induction s generalizing before e with
  | nil =>
    have hquote : json = before ++ 0x22 :: rest := h
    rw [stringEndFrom, dif_pos (length_lt hquote), if_neg (by simp), getElem_at hquote,
      if_neg (by decide), if_pos rfl]
    simp [StringText.raw]
  | cons item s ih =>
    have hraw : StringText.raw (item :: s) = item.render ++ StringText.raw s := rfl
    have hitem : json = before ++ (item.render ++ (StringText.raw s ++ 0x22 :: rest)) := by
      rw [h, hraw]; simp
    have hnext : json = (before ++ item.render) ++ (StringText.raw s ++ 0x22 :: rest) := by
      rw [hitem]; simp
    rw [stringEndFrom_item item hitem, ih hnext, hraw, List.any_cons, Bool.or_assoc,
      List.append_assoc]

/-! ### Stepping over values -/

variable {json key : Bytes} {root depth : Nat}

/-- The walk goes over a piece of text, wherever it stands, and stays at its depth. -/
def Skips (json key : Bytes) (root depth : Nat) (text : Bytes) : Prop :=
  ∀ before rest, json = before ++ (text ++ rest) →
    findFrom json key root depth before.length =
      findFrom json key root depth (before ++ text).length

theorem Skips.nil : Skips json key root depth [] := fun before rest _ => by
  rw [List.append_nil]

theorem Skips.append {xs ys : Bytes} (hxs : Skips json key root depth xs)
    (hys : Skips json key root depth ys) : Skips json key root depth (xs ++ ys) := by
  intro before rest h
  have hfirst : json = before ++ (xs ++ (ys ++ rest)) := by rw [h, List.append_assoc]
  have hsecond : json = (before ++ xs) ++ (ys ++ rest) := by rw [hfirst, List.append_assoc]
  rw [hxs before _ hfirst, hys _ rest hsecond, List.append_assoc]

/-- A byte that changes the depth or opens a string. -/
def isNesting (b : UInt8) : Bool :=
  b == 0x7B || b == 0x5B || b == 0x7D || b == 0x5D || b == 0x22

theorem not_isNesting_of_not_isStructural :
    ∀ b, isStructural b = false → isNesting b = false := by
  decide +kernel

/-- Other bytes are stepped over one by one. -/
theorem Skips.plain (hdepth : 0 < depth) {text : Bytes}
    (htext : ∀ b ∈ text, isNesting b = false) : Skips json key root depth text := by
  induction text with
  | nil => exact Skips.nil
  | cons c text ih =>
    have hc : isNesting c = false := htext c List.mem_cons_self
    simp only [isNesting, Bool.or_eq_false_iff, beq_eq_false_iff_ne] at hc
    obtain ⟨⟨⟨⟨h1, h2⟩, h3⟩, h4⟩, h5⟩ := hc
    have hone : Skips json key root depth [c] := by
      intro before rest h
      rw [findFrom, dif_pos ⟨length_lt h, hdepth⟩, getElem_at h, if_neg (not_or.2 ⟨h1, h2⟩),
        if_neg (not_or.2 ⟨h3, h4⟩), if_pos h5, List.length_append, List.length_singleton]
    exact hone.append (ih fun b hb => htext b (List.mem_cons_of_mem c hb))

/-- The same for a text that is known. -/
theorem Skips.literal (hdepth : 0 < depth) {text : Bytes} (htext : text.any isNesting = false) :
    Skips json key root depth text :=
  Skips.plain hdepth fun b hb => Bool.eq_false_iff.2 (List.any_eq_false.1 htext b hb)

theorem Skips.space (hdepth : 0 < depth) (ws : Ws) : Skips json key root depth ws.bytes :=
  Skips.plain hdepth fun b hb => not_isNesting_of_not_isStructural b
    (not_isStructural_of_isSpace b (isWs_isSpace (List.all_eq_true.1 ws.all_ws b hb)))

/-- A string that is no member name is stepped over. -/
theorem findFrom_string (hdepth : 0 < depth) (s : StringText) {before rest : Bytes}
    (h : json = before ++ (s.render ++ rest))
    (hname : isMemberName json root depth before.length = false) :
    findFrom json key root depth before.length =
      findFrom json key root depth (before ++ s.render).length := by
  have hquote : json = before ++ 0x22 :: (StringText.raw s ++ 0x22 :: rest) := by
    rw [h, StringText.render]; simp
  have hinside : json = (before ++ [0x22]) ++ (StringText.raw s ++ 0x22 :: rest) := by
    rw [hquote]; simp
  have hlen : before.length + 1 = (before ++ [0x22]).length := by simp
  rw [findFrom, dif_pos ⟨length_lt hquote, hdepth⟩, getElem_at hquote, if_neg (by decide),
    if_neg (by decide), if_neg (by simp)]
  split
  · rename_i hnone
    rw [hlen, stringEndFrom_raw s hinside] at hnone
    cases hnone
  · rename_i stringEnd esc hsome
    rw [hlen, stringEndFrom_raw s hinside] at hsome
    cases hsome
    rw [hname, Bool.false_and, Bool.false_and, if_neg (by simp)]
    congr 1
    simp only [StringText.render, List.length_append, List.length_cons, List.length_nil]
    omega

/-- Brackets around a text that is stepped over one level deeper. -/
theorem Skips.nested (hdepth : 0 < depth) {opening closing : UInt8} {body : Bytes}
    (hopening : opening = 0x7B ∨ opening = 0x5B) (hclosing : closing = 0x7D ∨ closing = 0x5D)
    (hbody : Skips json key root (depth + 1) body) :
    Skips json key root depth (opening :: (body ++ [closing])) := by
  intro before rest h
  have hopen : json = before ++ opening :: (body ++ (closing :: rest)) := by rw [h]; simp
  have hinside : json = (before ++ [opening]) ++ (body ++ (closing :: rest)) := by
    rw [hopen]; simp
  have hclose : json = ((before ++ [opening]) ++ body) ++ closing :: rest := by
    rw [hinside]; simp
  have hlen : before.length + 1 = (before ++ [opening]).length := by simp
  have hnot : ¬ (closing = 0x7B ∨ closing = 0x5B) := by
    obtain rfl | rfl := hclosing <;> decide
  rw [findFrom, dif_pos ⟨length_lt hopen, hdepth⟩, getElem_at hopen, if_pos hopening, hlen,
    hbody _ _ hinside, findFrom, dif_pos ⟨length_lt hclose, Nat.succ_pos depth⟩,
    getElem_at hclose, if_neg hnot, if_pos hclosing, Nat.add_sub_cancel]
  congr 1
  simp only [List.length_append, List.length_cons, List.length_nil]
  omega

theorem isMemberName_deep (hdepth : 2 ≤ depth) (pos : Nat) :
    isMemberName json root depth pos = false := by
  rw [isMemberName, show (depth == 1) = false from by simp; omega]
  simp

theorem Skips.string (hdepth : 2 ≤ depth) (s : StringText) :
    Skips json key root depth s.render :=
  fun _ _ h => findFrom_string (by omega) s h (isMemberName_deep hdepth _)

theorem Skips.number (hdepth : 0 < depth) (n : NumberText) :
    Skips json key root depth n.render :=
  Skips.plain hdepth fun b hb =>
    not_isNesting_of_not_isStructural b (n.not_isStructural b hb)

theorem Skips.comma (hdepth : 0 < depth) : Skips json key root depth [0x2C] :=
  Skips.literal hdepth (by decide)

theorem Skips.colon (hdepth : 0 < depth) : Skips json key root depth [0x3A] :=
  Skips.literal hdepth (by decide)

mutual

/-- **Below the root a value is stepped over whole**, whatever it contains. -/
theorem skips_value (v : Value) (depth : Nat) (hdepth : 2 ≤ depth) :
    Skips json key root depth v.render :=
  match v with
  | .null => Skips.literal (by omega) (by decide)
  | .bool true => Skips.literal (by omega) (by decide)
  | .bool false => Skips.literal (by omega) (by decide)
  | .number n => Skips.number (by omega) n
  | .string s => Skips.string hdepth s
  | .array gap elements =>
    Skips.nested (by omega) (Or.inr rfl) (Or.inr rfl)
      ((Skips.space (by omega) gap).append (skips_elements elements (depth + 1) (by omega)))
  | .object gap members =>
    Skips.nested (by omega) (Or.inl rfl) (Or.inl rfl)
      ((Skips.space (by omega) gap).append (skips_members members (depth + 1) (by omega)))

theorem skips_elements (elements : Elements) (depth : Nat) (hdepth : 2 ≤ depth) :
    Skips json key root depth elements.render :=
  match elements with
  | .nil => Skips.nil
  | .cons before value after rest => by
    have hcomma : Skips json key root depth rest.separator := by
      cases rest with
      | nil => exact Skips.nil
      | cons => exact Skips.comma (by omega)
    exact ((((Skips.space (by omega) before).append (skips_value value depth hdepth)).append
      (Skips.space (by omega) after)).append hcomma).append (skips_elements rest depth hdepth)

theorem skips_members (members : Members) (depth : Nat) (hdepth : 2 ≤ depth) :
    Skips json key root depth members.render :=
  match members with
  | .nil => Skips.nil
  | .cons before name afterKey beforeValue value after rest => by
    have hcomma : Skips json key root depth rest.separator := by
      cases rest with
      | nil => exact Skips.nil
      | cons => exact Skips.comma (by omega)
    exact ((((((((Skips.space (by omega) before).append (Skips.string hdepth name)).append
      (Skips.space (by omega) afterKey)).append (Skips.colon (by omega))).append
      (Skips.space (by omega) beforeValue)).append (skips_value value depth hdepth)).append
      (Skips.space (by omega) after)).append hcomma).append (skips_members rest depth hdepth)

end

/-! ### The members of the root -/

/-- A place at the root where the last byte that is not whitespace is one of `marks`. -/
def Behind (root : Nat) (marks : Bytes) (before : Bytes) : Prop :=
  ∃ front c ws, before = front ++ c :: ws ∧ c ∈ marks ∧ isSpace c = false ∧
    (∀ b ∈ ws, isSpace b = true) ∧ root ≤ front.length

/-- What has been walked over may grow by whitespace. -/
theorem Behind.space {marks before : Bytes} (h : Behind root marks before) (ws : Ws) :
    Behind root marks (before ++ ws.bytes) := by
  obtain ⟨front, c, run, rfl, hc, hspace, hrun, hroot⟩ := h
  refine ⟨front, c, run ++ ws.bytes, by simp, hc, hspace, fun b hb => ?_, hroot⟩
  obtain hb | hb := List.mem_append.1 hb
  · exact hrun b hb
  · exact isWs_isSpace (List.all_eq_true.1 ws.all_ws b hb)

theorem isMemberName_behind {marks before rest : Bytes} (h : json = before ++ rest)
    (hb : Behind root marks before) :
    ∃ c ∈ marks, isMemberName json root 1 before.length = (c == 0x7B || c == 0x2C) := by
  obtain ⟨front, c, ws, rfl, hc, hspace, hws, hroot⟩ := hb
  refine ⟨c, hc, ?_⟩
  have hjson : json = front ++ c :: (ws ++ rest) := by rw [h]; simp
  have hread : json[front.length + 1 - 1]? = some c := by rw [hjson]; simp
  have hlt : root < front.length + 1 := by omega
  rw [isMemberName, skipSpaceBack_over ws hjson hws hspace hroot, hread, decide_eq_true hlt]
  simp

/-- Behind a colon no string is a member name. -/
theorem not_isMemberName_value {before rest : Bytes} (h : json = before ++ rest)
    (hb : Behind root [0x3A] before) : isMemberName json root 1 before.length = false := by
  obtain ⟨c, hc, hname⟩ := isMemberName_behind h hb
  rw [List.mem_singleton] at hc
  rw [hname, hc]
  rfl

/-- Behind the root's brace or a comma a string is one. -/
theorem isMemberName_name {before rest : Bytes} (h : json = before ++ rest)
    (hb : Behind root [0x7B, 0x2C] before) : isMemberName json root 1 before.length = true := by
  obtain ⟨c, hc, hname⟩ := isMemberName_behind h hb
  rw [List.mem_cons, List.mem_singleton] at hc
  rw [hname]
  obtain rfl | rfl := hc <;> rfl

/-- A value of the root object is stepped over. -/
theorem findFrom_value (v : Value) {before rest : Bytes}
    (h : json = before ++ (v.render ++ rest)) (hb : Behind root [0x3A] before) :
    findFrom json key root 1 before.length =
      findFrom json key root 1 (before ++ v.render).length := by
  cases v with
  | null => exact Skips.literal (by omega) (by decide) before rest h
  | bool b => cases b <;> exact Skips.literal (by omega) (by decide) before rest h
  | number n => exact Skips.number (by omega) n before rest h
  | string s => exact findFrom_string (by omega) s h (not_isMemberName_value h hb)
  | array gap elements =>
    exact Skips.nested (by omega) (Or.inr rfl) (Or.inr rfl)
      ((Skips.space (by omega) gap).append (skips_elements elements 2 (by omega))) before rest h
  | object gap members =>
    exact Skips.nested (by omega) (Or.inl rfl) (Or.inl rfl)
      ((Skips.space (by omega) gap).append (skips_members members 2 (by omega))) before rest h

theorem slash_mem_raw {s : StringText} (h : s.any isEscape = true) :
    0x5C ∈ StringText.raw s := by
  obtain ⟨item, hitem, hescape⟩ := List.any_eq_true.1 h
  refine List.mem_flatMap.2 ⟨item, hitem, ?_⟩
  cases item with
  | plain b ok => cases hescape
  | short letter ok => exact List.mem_cons_self
  | unicode h0 h1 h2 h3 ok => exact List.mem_cons_self

/-- The comparison with `key` is one of raw texts: a key with an escape is no plain one. -/
theorem sameKey_iff (hkey : ∀ b ∈ key, isPlain b = true) (s : StringText) :
    (!s.any isEscape && StringText.raw s == key) = decide (StringText.raw s = key) := by
  cases hescape : s.any isEscape with
  | false => rw [Bool.not_false, Bool.true_and, beq_eq_decide]
  | true =>
    rw [Bool.not_true, Bool.false_and, eq_comm, decide_eq_false_iff_not]
    rintro rfl
    exact (plain_ne_quote _ (hkey 0x5C (slash_mem_raw hescape))).2 rfl

theorem valueAfterName_eq (afterKey beforeValue : Ws) (v : Value) {before rest : Bytes}
    (h : json = before ++ 0x22 ::
      (afterKey.bytes ++ 0x3A :: (beforeValue.bytes ++ (v.render ++ rest)))) :
    valueAfterName json before.length =
      some (before ++ 0x22 :: (afterKey.bytes ++ 0x3A :: beforeValue.bytes)).length := by
  have hname : json = (before ++ [0x22]) ++
      (afterKey.bytes ++ (0x3A :: (beforeValue.bytes ++ (v.render ++ rest)))) := by rw [h]; simp
  have hcolon : json = ((before ++ [0x22]) ++ afterKey.bytes) ++
      0x3A :: (beforeValue.bytes ++ (v.render ++ rest)) := by rw [hname]; simp
  have hvalue : json = (((before ++ [0x22]) ++ afterKey.bytes) ++ [0x3A]) ++
      (beforeValue.bytes ++ (v.render ++ rest)) := by rw [hcolon]; simp
  have hlen : before.length + 1 = (before ++ [0x22]).length := by simp
  have hlen' : ((before ++ [0x22]) ++ afterKey.bytes).length + 1 =
      (((before ++ [0x22]) ++ afterKey.bytes) ++ [0x3A]).length := length_snoc _ _
  have hspace : ∀ (ws : Ws), ∀ b ∈ ws.bytes, isSpace b = true :=
    fun ws b hb => isWs_isSpace (List.all_eq_true.1 ws.all_ws b hb)
  have hstop : Stops isSpace (v.render ++ rest) := by
    obtain ⟨c, tail, hrender, hc, _⟩ := v.render_head
    rw [hrender]
    exact hc
  have hread : json[((before ++ [0x22]) ++ afterKey.bytes).length]? = some 0x3A := by
    rw [hcolon]; exact getElem?_at _ _ _
  rw [valueAfterName, hlen, skipWhile_over hname (hspace afterKey) rfl, if_pos hread,
    hlen', skipWhile_over hvalue (hspace beforeValue) hstop]
  simp

/-- At a place for names: the wanted name leads to its value, another one is stepped over. -/
theorem findFrom_name (hkey : ∀ b ∈ key, isPlain b = true) (s : StringText)
    {before rest : Bytes} (h : json = before ++ (s.render ++ rest))
    (hb : Behind root [0x7B, 0x2C] before) :
    findFrom json key root 1 before.length =
      if StringText.raw s = key then valueAfterName json (before ++ 0x22 :: StringText.raw s).length
      else findFrom json key root 1 (before ++ s.render).length := by
  have hquote : json = before ++ 0x22 :: (StringText.raw s ++ 0x22 :: rest) := by
    rw [h, StringText.render]; simp
  have hinside : json = (before ++ [0x22]) ++ (StringText.raw s ++ 0x22 :: rest) := by
    rw [hquote]; simp
  have hsubstr : substr json (before ++ [0x22]).length
      ((before ++ [0x22]) ++ StringText.raw s).length = StringText.raw s := by
    rw [hinside, substr_middle]
  rw [findFrom, dif_pos ⟨length_lt hquote, Nat.one_pos⟩, getElem_at hquote, if_neg (by decide),
    if_neg (by decide), if_neg (by simp)]
  split
  · rename_i hnone
    rw [length_snoc _ 0x22, stringEndFrom_raw s hinside] at hnone
    cases hnone
  · rename_i stringEnd esc hsome
    rw [length_snoc _ 0x22, stringEndFrom_raw s hinside] at hsome
    cases hsome
    rw [length_snoc _ 0x22, hsubstr, isMemberName_name hquote hb, Bool.true_and, Bool.false_or,
      sameKey_iff hkey, length_snoc _ 0x22]
    simp [StringText.render]

/-- What follows a name in a member is stepped over. -/
theorem findFrom_behindName (afterKey beforeValue after : Ws) (value : Value) (members : Members)
    {before rest : Bytes} (hroot : root ≤ before.length)
    (h : json = before ++ ((afterKey.bytes ++ [0x3A] ++ beforeValue.bytes) ++
      (value.render ++ ((after.bytes ++ members.separator) ++ rest)))) :
    findFrom json key root 1 before.length =
      findFrom json key root 1 (((before ++ (afterKey.bytes ++ [0x3A] ++ beforeValue.bytes)) ++
        value.render) ++ (after.bytes ++ members.separator)).length := by
  have hvalue : json = (before ++ (afterKey.bytes ++ [0x3A] ++ beforeValue.bytes)) ++
      (value.render ++ ((after.bytes ++ members.separator) ++ rest)) := by rw [h]; simp
  have hafter : json = ((before ++ (afterKey.bytes ++ [0x3A] ++ beforeValue.bytes)) ++
      value.render) ++ ((after.bytes ++ members.separator) ++ rest) := by rw [hvalue]; simp
  have hb : Behind root [0x3A] (before ++ (afterKey.bytes ++ [0x3A] ++ beforeValue.bytes)) := by
    refine ⟨before ++ afterKey.bytes, 0x3A, beforeValue.bytes, by simp, List.mem_cons_self, rfl,
      fun b hb => isWs_isSpace (List.all_eq_true.1 beforeValue.all_ws b hb), ?_⟩
    rw [List.length_append]
    omega
  have hcomma : Skips json key root 1 members.separator := by
    cases members with
    | nil => exact Skips.nil
    | cons => exact Skips.comma Nat.one_pos
  rw [((Skips.space Nat.one_pos afterKey).append (Skips.colon Nat.one_pos)).append
    (Skips.space Nat.one_pos beforeValue) _ _ h, findFrom_value value hvalue hb,
    (Skips.space Nat.one_pos after).append hcomma _ _ hafter]

/-- **The walk over the members** follows `Members.find`: it stops at the value of the first
member with the name, or goes over all of them. -/
theorem findFrom_members (hkey : ∀ b ∈ key, isPlain b = true) (members : Members)
    {before rest : Bytes} (h : json = before ++ (members.render ++ rest))
    (hb : members ≠ .nil → Behind root [0x7B, 0x2C] before) :
    findFrom json key root 1 before.length =
      match members.find key with
      | none => findFrom json key root 1 (before ++ members.render).length
      | some (front, _) => some (before ++ front).length := by
  match members with
  | .nil => rw [Members.find, Members.render, List.append_nil]
  | .cons space name afterKey beforeValue value after members =>
    let atName := before ++ space.bytes
    let behindName := (afterKey.bytes ++ [0x3A] ++ beforeValue.bytes) ++
      (value.render ++ ((after.bytes ++ members.separator) ++ (members.render ++ rest)))
    let atRest := (((atName ++ name.render) ++ (afterKey.bytes ++ [0x3A] ++ beforeValue.bytes)) ++
      value.render) ++ (after.bytes ++ members.separator)
    have hspace : json = before ++ (space.bytes ++ (name.render ++ behindName)) := by
      rw [h, Members.render]; simp [behindName]
    have hname : json = atName ++ (name.render ++ behindName) := by rw [hspace]; simp [atName]
    have hbehind : json = (atName ++ name.render) ++ behindName := by rw [hname]; simp
    have hrest : json = atRest ++ (members.render ++ rest) := by
      rw [hbehind]; simp [behindName, atRest]
    have hatName : Behind root [0x7B, 0x2C] atName := (hb (by simp)).space space
    have hroot : root ≤ (atName ++ name.render).length := by
      obtain ⟨front, c, run, heq, _, _, _, hle⟩ := hatName
      rw [heq]
      simp only [List.length_append]
      omega
    rw [Skips.space Nat.one_pos space before _ hspace, findFrom_name hkey name hname hatName]
    by_cases hsame : StringText.raw name = key
    · have hquote : json = (atName ++ 0x22 :: StringText.raw name) ++ 0x22 :: (afterKey.bytes ++
          0x3A :: (beforeValue.bytes ++ (value.render ++
            ((after.bytes ++ members.separator) ++ (members.render ++ rest))))) := by
        rw [hname, StringText.render]; simp [behindName]
      rw [if_pos hsame, valueAfterName_eq afterKey beforeValue value hquote]
      simp only [Members.find, if_pos hsame]
      simp [atName, StringText.render]
    · have hatRest : members ≠ .nil → Behind root [0x7B, 0x2C] atRest := by
        intro hne
        cases members with
        | nil => exact absurd rfl hne
        | cons =>
          refine ⟨((atName ++ name.render) ++ (afterKey.bytes ++ [0x3A] ++ beforeValue.bytes)) ++
            value.render ++ after.bytes, 0x2C, [], by simp [atRest, Members.separator], by simp,
            rfl, by simp, ?_⟩
          simp only [List.length_append] at hroot ⊢
          omega
      rw [if_neg hsame, findFrom_behindName afterKey beforeValue after value members hroot hbehind,
        findFrom_members hkey members hrest hatRest]
      simp only [Members.find, if_neg hsame]
      cases members.find key with
      | none => simp [atRest, atName, Members.render]
      | some found => simp [atRest, atName]

/-- The part of an object text in front of its members. -/
def rootFront (leading gap : Ws) : Bytes := leading.bytes ++ 0x7B :: gap.bytes

/-- `FindValueStart` on an object text. -/
theorem findValueStart_eq (hkey : ∀ b ∈ key, isPlain b = true) (leading gap trailing : Ws)
    (members : Members) :
    findValueStart (Text.mk leading (.object gap members) trailing).render key =
      (members.find key).map fun found => (rootFront leading gap ++ found.1).length := by
  let json := (Text.mk leading (.object gap members) trailing).render
  have hbrace : json = leading.bytes ++ 0x7B :: (gap.bytes ++ (members.render ++
      (0x7D :: trailing.bytes))) := by
    simp [json, Text.render, Value.render]
  have hgap : json = (leading.bytes ++ [0x7B]) ++ (gap.bytes ++ (members.render ++
      (0x7D :: trailing.bytes))) := by rw [hbrace]; simp
  have hmembers : json = rootFront leading gap ++ (members.render ++
      (0x7D :: trailing.bytes)) := by rw [hbrace]; simp [rootFront]
  have hclose : json = (rootFront leading gap ++ members.render) ++ 0x7D :: trailing.bytes := by
    rw [hmembers]; simp
  have hspace : ∀ ws : Ws, ∀ b ∈ ws.bytes, isSpace b = true :=
    fun ws b hb => isWs_isSpace (List.all_eq_true.1 ws.all_ws b hb)
  have hroot : skipWhile isSpace json 0 = leading.bytes.length :=
    @skipWhile_over _ _ [] leading.bytes _ hbrace (hspace leading) rfl
  have hread : json[leading.bytes.length]? = some 0x7B := by
    rw [hbrace]; exact getElem?_at _ _ _
  have hb : Behind leading.bytes.length [0x7B, 0x2C] (rootFront leading gap) :=
    ⟨leading.bytes, 0x7B, gap.bytes, rfl, List.mem_cons_self, rfl, hspace gap, Nat.le_refl _⟩
  have hfront : (leading.bytes ++ [0x7B] ++ gap.bytes) = rootFront leading gap := by
    simp [rootFront]
  show findValueStart json key = _
  rw [findValueStart, hroot]
  simp only [if_pos hread]
  rw [length_snoc _ 0x7B, Skips.space Nat.one_pos gap _ _ hgap, hfront,
    findFrom_members hkey members hmembers fun _ => hb]
  cases members.find key with
  | none =>
    show findFrom json key leading.bytes.length 1 _ = none
    rw [findFrom, dif_pos ⟨length_lt hclose, Nat.one_pos⟩, getElem_at hclose,
      if_neg (by decide), if_pos (by decide), findFrom, dif_neg (by simp)]
  | some found => rfl

/-! ### Which control type is dispatched -/

/-- The control type of a raw type text. -/
def controlTypeOf (type : Bytes) : ControlType :=
  if type = ascii "hello" then .hello
  else if type = ascii "ping" then .ping
  else if type = ascii "touch" then .touch
  else if type = ascii "scroll" then .scroll
  else if type = ascii "pencil" then .pencil
  else if type = ascii "proximity" then .proximity
  else if type = ascii "kf" then .kf
  else if type = ascii "stats" then .stats
  else if type = ascii "sleeping" then .sleeping
  else if type = ascii "closing" then .closing
  else .unknown

/-- One branch of the dispatch. -/
theorem map_type_ite {D : Type} {c : Prop} [Decidable c] {msg : ControlMessage D}
    {rest : Option (ControlMessage D)} {yes no : ControlType} (hmsg : msg.type = yes)
    (hrest : rest.map ControlMessage.type = some no) :
    (if c then some msg else rest).map ControlMessage.type = some (if c then yes else no) := by
  by_cases hc : c
  · rw [if_pos hc, if_pos hc, Option.map_some, hmsg]
  · rw [if_neg hc, if_neg hc, hrest]

/-- What holds of the messages of both branches holds of the chosen one. -/
theorem forall_mem_ite {α : Type} {P : α → Prop} {c : Prop} [Decidable c] {yes no : Option α}
    (hyes : ∀ x ∈ yes, P x) (hno : ∀ x ∈ no, P x) : ∀ x ∈ (if c then yes else no), P x := by
  split
  · exact hyes
  · exact hno

/-- What holds of a message holds of the only one there is. -/
theorem forall_mem_some {α : Type} {P : α → Prop} {x : α} (h : P x) : ∀ y ∈ some x, P y := by
  intro y hy
  cases hy
  exact h

/-- The dispatch depends on the `type` field only. -/
theorem parseControlMessage_type {D : Type} (doubles : Doubles D) (json : Bytes) :
    (parseControlMessage doubles json).map ControlMessage.type =
      (findStringField json (ascii "type")).map controlTypeOf := by
  unfold parseControlMessage
  cases findStringField json (ascii "type") with
  | none => rfl
  | some type =>
    rw [Option.map_some, controlTypeOf]
    iterate 10 refine map_type_ite rfl ?_
    rfl

/-- A text with a backslash names no type. -/
theorem controlTypeOf_slash {type : Bytes} (h : 0x5C ∈ type) : controlTypeOf type = .unknown := by
  have hne : ∀ word : Bytes, 0x5C ∉ word → type ≠ word := by
    rintro word hword rfl
    exact hword h
  unfold controlTypeOf
  rw [if_neg (hne _ (by decide)), if_neg (hne _ (by decide)), if_neg (hne _ (by decide)),
    if_neg (hne _ (by decide)), if_neg (hne _ (by decide)), if_neg (hne _ (by decide)),
    if_neg (hne _ (by decide)), if_neg (hne _ (by decide)), if_neg (hne _ (by decide)),
    if_neg (hne _ (by decide))]

/-- The part of a string in front of its first quote byte, where `FindStringField` ends it. -/
def firstPart (s : StringText) : Bytes := (StringText.raw s).takeWhile fun b => b != 0x22

/-- A string that is cut short was cut behind a backslash. -/
theorem firstPart_cases (s : StringText) :
    firstPart s = StringText.raw s ∨ 0x5C ∈ firstPart s ∧ 0x5C ∈ StringText.raw s := by
  induction s with
  | nil => exact Or.inl rfl
  | cons item s ih =>
    cases item with
    | plain b ok =>
      have hne : (b != 0x22) = true := by simpa using (plain_ne_quote b ok).1
      have hraw : StringText.raw (.plain b ok :: s) = b :: StringText.raw s := rfl
      have hpart : firstPart (.plain b ok :: s) = b :: firstPart s := by
        rw [firstPart, hraw, List.takeWhile_cons, if_pos hne, firstPart]
      rw [hraw, hpart]
      exact ih.imp (fun h => by rw [h]) fun h =>
        ⟨List.mem_cons_of_mem b h.1, List.mem_cons_of_mem b h.2⟩
    | short letter ok => exact Or.inr ⟨List.mem_cons_self, List.mem_cons_self⟩
    | unicode h0 h1 h2 h3 ok => exact Or.inr ⟨List.mem_cons_self, List.mem_cons_self⟩

theorem controlTypeOf_firstPart (s : StringText) :
    controlTypeOf (firstPart s) = controlTypeOf (StringText.raw s) := by
  obtain h | ⟨hpart, hraw⟩ := firstPart_cases s
  · rw [h]
  · rw [controlTypeOf_slash hpart, controlTypeOf_slash hraw]

/-- The first quote byte behind a string's opening one. -/
theorem findByte_string (s : StringText) {json before rest : Bytes}
    (h : json = before ++ (StringText.raw s ++ 0x22 :: rest)) :
    findByte 0x22 json before.length = some (before ++ firstPart s).length := by
  have hsplit : StringText.raw s ++ 0x22 :: rest =
      firstPart s ++ ((StringText.raw s).dropWhile (fun b => b != 0x22) ++ 0x22 :: rest) := by
    rw [firstPart, ← List.append_assoc, List.takeWhile_append_dropWhile]
  have hrun : ∀ b ∈ firstPart s, (b != 0x22) = true := List.all_eq_true.1 List.all_takeWhile
  have hstop : Stops (fun b => b != 0x22)
      ((StringText.raw s).dropWhile (fun b => b != 0x22) ++ 0x22 :: rest) := by
    cases hdrop : (StringText.raw s).dropWhile (fun b => b != 0x22) with
    | nil => rfl
    | cons c tail =>
      have hc := List.head?_dropWhile_not (fun b : UInt8 => b != 0x22) (StringText.raw s)
      rw [hdrop] at hc
      simpa [Stops] using hc
  have hlt : (before ++ firstPart s).length < json.length := by
    rw [h, hsplit]
    simp only [List.length_append, List.length_cons]
    omega
  rw [findByte, skipWhile_over (h.trans (by rw [hsplit])) hrun hstop]
  simp only [if_pos hlt]

/-- `FindStringField` on an object text: the first part of the value, if it is a string. -/
theorem findStringField_eq (hkey : ∀ b ∈ key, isPlain b = true) (leading gap trailing : Ws)
    (members : Members) :
    findStringField (Text.mk leading (.object gap members) trailing).render key =
      match members.find key with
      | some (_, .string s) => some (firstPart s)
      | _ => none := by
  rw [findStringField, findValueStart_eq hkey]
  cases hfind : members.find key with
  | none => rfl
  | some found =>
    obtain ⟨front, value⟩ := found
    obtain ⟨behind, hbehind⟩ := Members.render_find hfind
    obtain ⟨c, tail, hrender, _, hquote⟩ := value.render_head
    let before := rootFront leading gap ++ front
    have htext : (Text.mk leading (.object gap members) trailing).render =
        before ++ (value.render ++ (behind ++ (0x7D :: trailing.bytes))) := by
      simp [Text.render, Value.render, hbehind, before, rootFront]
    have hread : (Text.mk leading (.object gap members) trailing).render[before.length]? =
        some c := by
      rw [htext, hrender]; exact getElem?_at _ _ _
    simp only [Option.map_some]
    by_cases hc : c = 0x22
    · obtain ⟨s, rfl⟩ := hquote.1 hc
      have hinside : (Text.mk leading (.object gap members) trailing).render =
          (before ++ [0x22]) ++ (StringText.raw s ++ 0x22 ::
            (behind ++ (0x7D :: trailing.bytes))) := by
        rw [htext, Value.render, StringText.render]; simp
      have hsubstr : substr ((before ++ [0x22]) ++ (StringText.raw s ++ 0x22 ::
          (behind ++ (0x7D :: trailing.bytes)))) (before ++ [0x22]).length
          ((before ++ [0x22]) ++ firstPart s).length = firstPart s := by
        have hsplit : StringText.raw s ++ 0x22 :: (behind ++ (0x7D :: trailing.bytes)) =
            firstPart s ++ ((StringText.raw s).dropWhile (fun b => b != 0x22) ++
              0x22 :: (behind ++ (0x7D :: trailing.bytes))) := by
          rw [firstPart, ← List.append_assoc, List.takeWhile_append_dropWhile]
        rw [hsplit, substr_middle]
      rw [if_pos (by rw [hread, hc]), length_snoc _ 0x22, findByte_string s hinside,
        Option.map_some, hinside, hsubstr]
    · have hnot : ∀ s, value ≠ .string s := fun s hs => hc (hquote.2 ⟨s, hs⟩)
      rw [if_neg (by rw [hread]; simpa using hc)]
      cases value with
      | string s => exact absurd rfl (hnot s)
      | null => rfl
      | bool b => rfl
      | number n => rfl
      | array gap elements => rfl
      | object gap members => rfl

/-- **The scanner agrees with JSON.**  On the text of any JSON object, for any key without
characters that need escaping, `FindValueStart` returns the offset at which the value of the
first root member with that raw key text begins, and `npos` if there is none; and
`ParseControlMessage` dispatches by the raw text of the root's first `type` member alone. -/
theorem findValueStart_object (leading gap trailing : Ws) (members : Members) (key : Bytes)
    (hkey : ∀ b ∈ key, isPlain b = true) :
    (match members.find key with
      | none =>
        findValueStart (Text.mk leading (.object gap members) trailing).render key = none
      | some (front, value) =>
        findValueStart (Text.mk leading (.object gap members) trailing).render key =
            some (rootFront leading gap ++ front).length ∧
          ∃ behind, (Text.mk leading (.object gap members) trailing).render =
            (rootFront leading gap ++ front) ++ value.render ++ behind) ∧
    ∀ {D : Type} (doubles : Doubles D),
      (parseControlMessage doubles
        (Text.mk leading (.object gap members) trailing).render).map ControlMessage.type =
        match members.find (ascii "type") with
        | some (_, .string s) => some (controlTypeOf (StringText.raw s))
        | _ => none := by
  constructor
  · cases hfind : members.find key with
    | none => rw [findValueStart_eq hkey, hfind]; rfl
    | some found =>
      obtain ⟨front, value⟩ := found
      obtain ⟨behind, hbehind⟩ := Members.render_find hfind
      refine ⟨by rw [findValueStart_eq hkey, hfind]; rfl, behind ++ 0x7D :: trailing.bytes, ?_⟩
      simp [Text.render, Value.render, hbehind, rootFront]
  · intro D doubles
    have hplain : ∀ b ∈ ascii "type", isPlain b = true := List.all_eq_true.1 (by decide)
    rw [parseControlMessage_type, findStringField_eq hplain]
    split
    · rename_i s hfind
      rw [Option.map_some, controlTypeOf_firstPart]
    · rfl

/-- The nested `type` and the quoted one are passed over; the root's own stands at offset 47. -/
theorem findValueStart_object_nested :
    let name (key : String) : StringText :=
      (ascii key).filterMap fun b => if h : isPlain b = true then some (.plain b h) else none
    let inner : Members :=
      .cons .none (name "type") .none .none (.string (name "closing")) .none .nil
    let members : Members :=
      .cons .none (name "stats") .none .none (.object .none inner) .none
        (.cons .none (name "note") .none .none (.string [.short 0x22 rfl]) .none
          (.cons .none (name "type") .none .none (.string (name "kf")) .none .nil))
    let text := (Text.mk .none (.object .none members) .none).render
    (∀ b ∈ ascii "type", isPlain b = true) ∧ findValueStart text (ascii "type") = some 47 ∧
      ∀ {D : Type} (doubles : Doubles D),
        (parseControlMessage doubles text).map ControlMessage.type = some .kf := by
  intro name inner members text
  have hplain : ∀ b ∈ ascii "type", isPlain b = true := List.all_eq_true.1 (by decide)
  have h := findValueStart_object .none .none .none members (ascii "type") hplain
  have hfirst : findValueStart text (ascii "type") = some 47 := by decide +kernel
  constructor
  · exact hplain
  constructor
  · exact hfirst
  · intro D doubles
    rw [h.2 doubles]
    rfl

end SecondDisplay.Protocol
