import Go9p.Proto.Types
import Mathlib.Data.List.Basic

/-!
# バイト列の読み書き（`proto` の補助関数）

`fcParse`, `fromLittleE32`, `fromString`, `toLittleE32`, `toString`, `Qid.Parse`, `Qid.Compose` は
`src/` にない。型は `src/` の呼び出し方から取り（`fromLittleE32` と `fromString` は誤りを返さない）、
働きは仕様書 4.1 節と 6 節から取る。

Go の実行時の panic（スライスの範囲の外の読み書き）は `Option` の `none` で表す。
-/

namespace Go9p

/-- Modelled from the spec: 読み取りの誤り（仕様書の ProtocolError）。どの部分が読めなかったか。 -/
inductive ParseError
  | header
  | size
  | qid
deriving DecidableEq, Repr

/-! ## 読む側 -/

/-- `k` バイトの、小さい桁から並んだ数を読む。バイトが足りなければ添字が範囲の外になり panic する。 -/
def fromLittleE (k : Nat) (buff : Bytes) : Option (Nat × Bytes) :=
  if k ≤ buff.length then some (leValue (buff.take k), buff.drop k) else none

/-- Modelled from the spec: `fromLittleE16`。 -/
def fromLittleE16 (buff : Bytes) : Option (UInt16 × Bytes) :=
  (fromLittleE 2 buff).map fun (v, rest) => (.ofNat v, rest)

/-- Modelled from the spec: `fromLittleE32`。 -/
def fromLittleE32 (buff : Bytes) : Option (UInt32 × Bytes) :=
  (fromLittleE 4 buff).map fun (v, rest) => (.ofNat v, rest)

/-- Modelled from the spec: `fromLittleE64`。 -/
def fromLittleE64 (buff : Bytes) : Option (UInt64 × Bytes) :=
  (fromLittleE 8 buff).map fun (v, rest) => (.ofNat v, rest)

/-- Modelled from the spec: `fromString`。2 バイトの長さと、その長さのバイトを読む。 -/
def fromString (buff : Bytes) : Option (GoString × Bytes) := do
  let (size, buff) ← fromLittleE16 buff
  if size.toNat ≤ buff.length then some (buff.take size.toNat, buff.drop size.toNat) else none

/-- Modelled from the spec: `fcParse`。7 バイトの見出し（長さ、型の番号、タグ）を読む。見出しが
読めないとき、また見出しの長さがバッファより長いときは誤りを返す。 -/
def fcParse : Bytes → Except ParseError (FCall × Bytes)
  | s₀ :: s₁ :: s₂ :: s₃ :: ctype :: t₀ :: t₁ :: buff =>
    if leValue [s₀, s₁, s₂, s₃] ≤ 7 + buff.length then
      .ok (⟨.ofNat (leValue [s₀, s₁, s₂, s₃]), ctype, .ofNat (leValue [t₀, t₁])⟩, buff)
    else .error .size
  | _ => .error .header

/-- Modelled from the spec: `Qid.Parse`。13 バイト（種類、版、識別子）を読み、足りなければ誤り。 -/
def Qid.parse : Bytes → Except ParseError (Qid × Bytes)
  | qtype :: buff =>
    if 12 ≤ buff.length then
      .ok (⟨qtype, .ofNat (leValue (buff.take 4)), .ofNat (leValue ((buff.drop 4).take 8))⟩,
        buff.drop 12)
    else .error .qid
  | [] => .error .qid

/-! ## 書く側 -/

/-- `make([]byte, n)` のスライスを前から書いていく途中。書いた部分と、残りの長さ。 -/
structure Cursor where
  written : Bytes
  free : Nat
deriving DecidableEq, Repr

/-- `make([]byte, n)`。 -/
def Cursor.make (n : Nat) : Cursor := ⟨[], n⟩

/-- 残りの先頭に `bs` を書いて、その後ろへ進む。残りが短ければ panic する。 -/
def Cursor.put (bs : Bytes) (c : Cursor) : Option Cursor :=
  if bs.length ≤ c.free then some ⟨c.written ++ bs, c.free - bs.length⟩ else none

/-- `copy(buffer, bs)`。書ける分だけを写し、panic しない。 -/
def Cursor.copy (bs : Bytes) (c : Cursor) : Cursor :=
  ⟨c.written ++ bs.take c.free, c.free - min bs.length c.free⟩

/-- `make` で作ったスライスの全体。書いていない部分は 0 のまま残る。 -/
def Cursor.buff (c : Cursor) : Bytes := c.written ++ List.replicate c.free 0

/-- `k` バイトの、小さい桁から並べた数を書く。 -/
def toLittleE (k n : Nat) (buffer : Cursor) : Option Cursor := buffer.put (leBytes k n)

/-- Modelled from the spec: `toLittleE16`。 -/
def toLittleE16 (v : UInt16) (buffer : Cursor) : Option Cursor := toLittleE 2 v.toNat buffer

/-- Modelled from the spec: `toLittleE32`。 -/
def toLittleE32 (v : UInt32) (buffer : Cursor) : Option Cursor := toLittleE 4 v.toNat buffer

/-- Modelled from the spec: `toString`。長さを `uint16` に変換して 2 バイトで書き、続けて中身を書く。 -/
def toString (s : GoString) (buffer : Cursor) : Option Cursor := do
  let buffer ← toLittleE16 (.ofNat s.length) buffer
  buffer.put s

/-- Modelled from the spec: `Qid.Compose`。種類、版、識別子の 13 バイト。 -/
def Qid.compose (qid : Qid) : Bytes :=
  qid.qtype :: (leBytes 4 qid.vers.toNat ++ leBytes 8 qid.uid.toNat)

/-- `toString` が書く長さは、文字列の長さの下位 2 バイトである。 -/
theorem leBytes_two_ofNat (n : Nat) : leBytes 2 (UInt16.ofNat n).toNat = leBytes 2 n := by
  rw [UInt16.toNat_ofNat_mod, show 2 ^ 16 = 256 ^ 2 from rfl, leBytes_mod]

@[simp] theorem Qid.length_compose (qid : Qid) : qid.compose.length = 13 := by
  simp [Qid.compose]

/-- 続けて書くことは、つないで一度に書くことと同じである。全体が収まらなければ、どちらも panic する。 -/
theorem Cursor.put_bind_put {α : Type} (a b : Bytes) (c : Cursor) (k : Cursor → Option α) :
    (c.put a).bind (fun c => (c.put b).bind k) = (c.put (a ++ b)).bind k := by
  unfold Cursor.put
  by_cases ha : a.length ≤ c.free
  · by_cases hb : b.length ≤ c.free - a.length
    · rw [if_pos ha, Option.some_bind, if_pos hb, if_pos (by simp; omega)]
      simp [Nat.sub_sub]
    · rw [if_pos ha, Option.some_bind, if_neg hb, if_neg (by simp; omega)]
  · rw [if_neg ha, if_neg (by simp; omega)]
    rfl

/-! ## 書いたものを読むと元に戻る -/

theorem fcParse_leBytes (size : Nat) (ctype : UInt8) (tag : UInt16) (buff : Bytes)
    (h : size % 2 ^ 32 ≤ 7 + buff.length) :
    fcParse (leBytes 4 size ++ ctype :: (leBytes 2 tag.toNat ++ buff)) =
      .ok (⟨.ofNat size, ctype, tag⟩, buff) := by
  obtain ⟨s₀, s₁, s₂, s₃, hs⟩ : ∃ a b c d, leBytes 4 size = [a, b, c, d] := ⟨_, _, _, _, rfl⟩
  obtain ⟨t₀, t₁, ht⟩ : ∃ a b, leBytes 2 tag.toNat = [a, b] := ⟨_, _, rfl⟩
  have hsv : leValue [s₀, s₁, s₂, s₃] = size % 2 ^ 32 := by rw [← hs, leValue_leBytes]; rfl
  have htv : leValue [t₀, t₁] = tag.toNat := by
    rw [← ht, leValue_leBytes]; exact Nat.mod_eq_of_lt tag.toNat_lt
  have hsz : UInt32.ofNat (size % 2 ^ 32) = UInt32.ofNat size :=
    UInt32.ext (by simp only [UInt32.toNat_ofNat_mod, Nat.mod_mod])
  simp only [hs, ht, List.cons_append, List.nil_append, fcParse, hsv, htv, if_pos h, hsz,
    UInt16.ofNat_toNat]

theorem fromLittleE_leBytes (k n : Nat) (rest : Bytes) :
    fromLittleE k (leBytes k n ++ rest) = some (n % 256 ^ k, rest) := by
  simp [fromLittleE, List.take_left', List.drop_left', leValue_leBytes]

@[simp] theorem fromLittleE16_leBytes (v : UInt16) (rest : Bytes) :
    fromLittleE16 (leBytes 2 v.toNat ++ rest) = some (v, rest) := by
  simp only [fromLittleE16, fromLittleE_leBytes, Nat.reducePow, UInt16.toNat_mod_size,
    UInt16.ofNat_toNat, Option.map_some']

@[simp] theorem fromLittleE32_leBytes (v : UInt32) (rest : Bytes) :
    fromLittleE32 (leBytes 4 v.toNat ++ rest) = some (v, rest) := by
  simp only [fromLittleE32, fromLittleE_leBytes, Nat.reducePow, UInt32.toNat_mod_size,
    UInt32.ofNat_toNat, Option.map_some']

/-- `fromString` は書かれた長さの下位 2 バイトだけを読む。文字列が 2^16 バイトより長ければ、先頭の
一部しか読まない。 -/
theorem fromString_leBytes_length (s tail : Bytes) :
    fromString (leBytes 2 s.length ++ (s ++ tail)) =
      some (s.take (s.length % 2 ^ 16), s.drop (s.length % 2 ^ 16) ++ tail) := by
  have hk : s.length % 2 ^ 16 ≤ s.length := Nat.mod_le _ _
  have := fromLittleE16_leBytes (.ofNat s.length) (s ++ tail)
  rw [leBytes_two_ofNat] at this
  simp only [fromString, this, Option.bind_eq_bind, Option.some_bind, UInt16.toNat_ofNat_mod,
    List.length_append]
  rw [if_pos (by omega), List.take_append_of_le_length hk, List.drop_append_of_le_length hk]

theorem Qid.parse_compose (qid : Qid) (rest : Bytes) :
    Qid.parse (qid.compose ++ rest) = .ok (qid, rest) := by
  have h12 : (leBytes 4 qid.vers.toNat ++ leBytes 8 qid.uid.toNat).length = 12 := by simp
  simp only [Qid.compose, List.cons_append, Qid.parse, List.length_append, h12, List.drop_left' h12]
  simp [List.take_left', List.drop_left', leValue_leBytes]

/-! ## 読む関数はバッファの後ろの部分を返す -/

theorem fcParse_ok {b rest : Bytes} {fc : FCall} (h : fcParse b = .ok (fc, rest)) :
    rest = b.drop 7 ∧ 7 ≤ b.length ∧ leValue (b.take 4) ≤ b.length := by
  unfold fcParse at h
  split at h
  · split at h
    · cases h; simp_all; omega
    · cases h
  · cases h

/-- 見出しが 7 バイトに足りないか、見出しの長さがバッファより長ければ、`fcParse` は誤りを返す。 -/
theorem fcParse_error_of_short {b : Bytes} (h : b.length < 7 ∨ b.length < leValue (b.take 4)) :
    ∃ e, fcParse b = .error e := by
  cases hb : fcParse b with
  | error e => exact ⟨e, rfl⟩
  | ok r => have := fcParse_ok hb; omega

theorem Qid.parse_ok {b rest : Bytes} {qid : Qid} (h : Qid.parse b = .ok (qid, rest)) :
    rest = b.drop 13 ∧ 13 ≤ b.length := by
  unfold Qid.parse at h
  split at h
  · split at h
    · cases h; simp_all
    · cases h
  · cases h

theorem Qid.parse_error_of_short {b : Bytes} (h : b.length < 13) : ∃ e, Qid.parse b = .error e := by
  cases hb : Qid.parse b with
  | error e => exact ⟨e, rfl⟩
  | ok r => have := Qid.parse_ok hb; omega

/-! ## 読めたバイト列は、読んだ値を書いたものである

読む関数が値を返したとき、読んだ部分は、その値を書く関数が書くバイト列そのものである。
-/

theorem leBytes_leValue (bs : Bytes) : leBytes bs.length (leValue bs) = bs := by
  induction bs with
  | nil => rfl
  | cons b bs ih =>
    have hb := b.toNat_lt
    have hmod : (b.toNat + 256 * leValue bs) % 256 = b.toNat := by omega
    have hdiv : (b.toNat + 256 * leValue bs) / 256 = leValue bs := by omega
    rw [List.length_cons, leBytes, leValue, hmod, hdiv, ih]
    exact congrArg (· :: bs) (UInt8.ext (UInt8.toNat_ofNat_of_lt hb))

theorem fromLittleE_eq {k : Nat} {b rest : Bytes} {v : Nat} (h : fromLittleE k b = some (v, rest)) :
    b = leBytes k v ++ rest ∧ v < 256 ^ k := by
  unfold fromLittleE at h
  split at h
  · rename_i hk
    cases h
    have hl : (b.take k).length = k := List.length_take_of_le hk
    have hb := leBytes_leValue (b.take k)
    have hlt := leValue_lt (b.take k)
    rw [hl] at hb hlt
    exact ⟨by rw [hb, List.take_append_drop], hlt⟩
  · cases h

theorem fromLittleE16_eq {b rest : Bytes} {v : UInt16} (h : fromLittleE16 b = some (v, rest)) :
    b = leBytes 2 v.toNat ++ rest := by
  obtain ⟨⟨n, r⟩, hn, he⟩ := Option.map_eq_some'.mp h
  cases he
  obtain ⟨hb, hlt⟩ := fromLittleE_eq hn
  rwa [UInt16.toNat_ofNat_of_lt hlt]

theorem fromLittleE32_eq {b rest : Bytes} {v : UInt32} (h : fromLittleE32 b = some (v, rest)) :
    b = leBytes 4 v.toNat ++ rest := by
  obtain ⟨⟨n, r⟩, hn, he⟩ := Option.map_eq_some'.mp h
  cases he
  obtain ⟨hb, hlt⟩ := fromLittleE_eq hn
  rwa [UInt32.toNat_ofNat_of_lt hlt]

/-- `fromString` が読んだ文字列は 2^16 バイトより短く、読んだ部分はその長さと中身である。 -/
theorem fromString_eq {b rest s : Bytes} (h : fromString b = some (s, rest)) :
    b = leBytes 2 s.length ++ (s ++ rest) ∧ s.length < 2 ^ 16 := by
  simp only [fromString, Option.bind_eq_bind, Option.bind_eq_some] at h
  obtain ⟨⟨size, buff⟩, hsz, h⟩ := h
  split at h
  · rename_i hle
    cases h
    rw [List.length_take_of_le hle]
    exact ⟨by rw [fromLittleE16_eq hsz, List.take_append_drop], size.toNat_lt⟩
  · cases h

theorem fcParse_eq {b rest : Bytes} {fc : FCall} (h : fcParse b = .ok (fc, rest)) :
    b = leBytes 4 fc.size.toNat ++ fc.ctype :: (leBytes 2 fc.tag.toNat ++ rest) := by
  match b with
  | s₀ :: s₁ :: s₂ :: s₃ :: ctype :: t₀ :: t₁ :: buff =>
    simp only [fcParse] at h
    split at h
    · cases h
      have hs : leBytes 4 (leValue [s₀, s₁, s₂, s₃]) = [s₀, s₁, s₂, s₃] := leBytes_leValue [s₀, s₁, s₂, s₃]
      have ht : leBytes 2 (leValue [t₀, t₁]) = [t₀, t₁] := leBytes_leValue [t₀, t₁]
      rw [UInt32.toNat_ofNat_mod, UInt16.toNat_ofNat_mod, show 2 ^ 32 = 256 ^ 4 from rfl,
        show 2 ^ 16 = 256 ^ 2 from rfl, leBytes_mod, leBytes_mod, hs, ht]
      rfl
    · cases h
  | [] | [_] | [_, _] | [_, _, _] | [_, _, _, _] | [_, _, _, _, _] | [_, _, _, _, _, _] => cases h

theorem Qid.parse_eq {b rest : Bytes} {qid : Qid} (h : Qid.parse b = .ok (qid, rest)) :
    b = qid.compose ++ rest := by
  unfold Qid.parse at h
  split at h
  · split at h
    · rename_i qtype buff h12
      cases h
      have h4 : (buff.take 4).length = 4 := List.length_take_of_le (by omega)
      have h8 : ((buff.drop 4).take 8).length = 8 := List.length_take_of_le (by simp; omega)
      have hv := leBytes_leValue (buff.take 4)
      have hu := leBytes_leValue ((buff.drop 4).take 8)
      rw [h4] at hv
      rw [h8] at hu
      simp only [Qid.compose, UInt32.toNat_ofNat_of_lt (h4 ▸ leValue_lt (buff.take 4)),
        UInt64.toNat_ofNat_of_lt (h8 ▸ leValue_lt ((buff.drop 4).take 8)), hv, hu, List.cons_append,
        List.append_assoc]
      rw [show buff.drop 12 = (buff.drop 4).drop 8 by rw [List.drop_drop], List.take_append_drop,
        List.take_append_drop]
    · cases h
  · cases h

end Go9p
