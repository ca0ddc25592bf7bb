import Mathlib.Data.String.Basic
import Mathlib.Data.Nat.Defs

/-!
# 9P の値の型と、小さい桁から並べるバイト列

`proto` パッケージの型（`Qid`, `Stat`, `FCall`）と定数 `DMDIR` は `src/` にない。ここでは仕様書の
3 節と 6 節の記述から、`src/` が読み書きする欄だけをその幅で置く。
-/

namespace Go9p

/-- Go の文字列。Go の文字列は UTF-8 である必要のない、任意のバイトの並びである。 -/
abbrev GoString := List UInt8

/-- Go の `[]byte` の、スライスから見えている範囲。 -/
abbrev Bytes := List UInt8

/-- Modelled from the spec: `proto.Qid`。種類 1 バイト、版 32 ビット、識別子 64 ビット。 -/
structure Qid where
  qtype : UInt8
  vers : UInt32
  uid : UInt64
deriving DecidableEq, Repr

/-- Modelled from the spec: `proto.Stat`。欄の幅は 6 節の「変更しない」印の値から決まる。 -/
structure Stat where
  type : UInt16
  dev : UInt32
  qid : Qid
  mode : UInt32
  atime : UInt32
  mtime : UInt32
  length : UInt64
  name : GoString
  uid : GoString
  gid : GoString
  muid : GoString
deriving DecidableEq, Repr

/-- Modelled from the spec: `FCall`。全てのメッセージの先頭にある長さ、型の番号、タグ。 -/
structure FCall where
  size : UInt32
  ctype : UInt8
  tag : UInt16
deriving DecidableEq, Repr

/-- Modelled from the spec: `proto.DMDIR`。32 ビットのモードの最上位ビットが、ディレクトリを表す。 -/
def dmdir : UInt32 := 0x80000000

/-- `'/'` のバイト。 -/
def slash : UInt8 := 47

/-! ## 固定幅の整数への変換 -/

theorem UInt8.toNat_ofNat_mod (n : Nat) : (UInt8.ofNat n).toNat = n % 2 ^ 8 := BitVec.toNat_ofNat ..

theorem UInt16.toNat_ofNat_mod (n : Nat) : (UInt16.ofNat n).toNat = n % 2 ^ 16 := BitVec.toNat_ofNat ..

theorem UInt32.toNat_ofNat_mod (n : Nat) : (UInt32.ofNat n).toNat = n % 2 ^ 32 := BitVec.toNat_ofNat ..

theorem UInt64.toNat_ofNat_mod (n : Nat) : (UInt64.ofNat n).toNat = n % 2 ^ 64 := BitVec.toNat_ofNat ..

@[simp] theorem UInt16.ofNat_toNat (v : UInt16) : UInt16.ofNat v.toNat = v :=
  UInt16.ext (by rw [UInt16.toNat_ofNat_mod]; exact Nat.mod_eq_of_lt v.toNat_lt)

@[simp] theorem UInt32.ofNat_toNat (v : UInt32) : UInt32.ofNat v.toNat = v :=
  UInt32.ext (by rw [UInt32.toNat_ofNat_mod]; exact Nat.mod_eq_of_lt v.toNat_lt)

@[simp] theorem UInt64.ofNat_toNat (v : UInt64) : UInt64.ofNat v.toNat = v :=
  UInt64.ext (by rw [UInt64.toNat_ofNat_mod]; exact Nat.mod_eq_of_lt v.toNat_lt)

@[simp] theorem UInt16.toNat_mod_size (v : UInt16) : v.toNat % 65536 = v.toNat :=
  Nat.mod_eq_of_lt v.toNat_lt

@[simp] theorem UInt32.toNat_mod_size (v : UInt32) : v.toNat % 4294967296 = v.toNat :=
  Nat.mod_eq_of_lt v.toNat_lt

@[simp] theorem UInt64.toNat_mod_size (v : UInt64) : v.toNat % 18446744073709551616 = v.toNat :=
  Nat.mod_eq_of_lt v.toNat_lt

/-! ## 小さい桁から並べたバイト列 -/

/-- `n` の下位 `k` バイトを、小さい桁から並べる。 -/
def leBytes : Nat → Nat → Bytes
  | 0, _ => []
  | k + 1, n => (n % 256).toUInt8 :: leBytes k (n / 256)

/-- 小さい桁から並んだバイト列が表す数。 -/
def leValue : Bytes → Nat
  | [] => 0
  | b :: bs => b.toNat + 256 * leValue bs

@[simp] theorem length_leBytes (k n : Nat) : (leBytes k n).length = k := by
  induction k generalizing n with
  | zero => rfl
  | succ k ih => simp [leBytes, ih]

/-- `leBytes k` は `n` の下位 `k` バイトしか見ない。 -/
theorem leBytes_mod (k n : Nat) : leBytes k (n % 256 ^ k) = leBytes k n := by
  induction k generalizing n with
  | zero => rfl
  | succ k ih =>
    have h₁ : n % 256 ^ (k + 1) % 256 = n % 256 :=
      Nat.mod_mod_of_dvd n ⟨256 ^ k, Nat.pow_succ'⟩
    have h₂ : n % 256 ^ (k + 1) / 256 = n / 256 % 256 ^ k := by
      rw [Nat.pow_succ', Nat.mod_mul_right_div_self]
    rw [leBytes, leBytes, h₁, h₂, ih]

theorem leValue_leBytes (k n : Nat) : leValue (leBytes k n) = n % 256 ^ k := by
  induction k generalizing n with
  | zero => simp [leBytes, leValue, Nat.mod_one]
  | succ k ih =>
    have hb : ((n % 256).toUInt8).toNat = n % 256 :=
      UInt8.toNat_ofNat_of_lt (Nat.mod_lt _ (by decide))
    rw [leBytes, leValue, ih, hb, Nat.pow_succ', Nat.mod_mul]

theorem leValue_lt (bs : Bytes) : leValue bs < 256 ^ bs.length := by
  induction bs with
  | nil => simp [leValue]
  | cons b bs ih =>
    have := b.toNat_lt
    rw [leValue, List.length_cons, Nat.pow_succ']
    omega

end Go9p
