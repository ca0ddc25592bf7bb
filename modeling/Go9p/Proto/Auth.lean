import Go9p.Proto.Codec

/-!
# 認証のメッセージ `TAuth` と `RAuth`

`src/auth.go` の `TAuth.Parse`, `TAuth.Compose`, `TAuth.Reply`, `RAuth.Parse`, `RAuth.Compose`。
`Parse` は受け手の欄を書き換えて残りのバッファを返す。ここでは読んだメッセージと残りの組を返す。
`String` は書式を作るだけなので置かない。
-/

namespace Go9p

/-- `TAuth`。認証の要求。 -/
structure TAuth extends FCall where
  afid : UInt32
  uname : GoString
  aname : GoString
deriving DecidableEq, Repr

/-- `RAuth`。認証の返答。 -/
structure RAuth extends FCall where
  aqid : Qid
deriving DecidableEq, Repr

/-- Modelled from the spec: `RError`。誤りの返答で、`src/` が使う欄は `Ename` だけである。 -/
structure RError extends FCall where
  ename : GoString
deriving DecidableEq, Repr

/-! ## 読む -/

/-- `TAuth.Parse`。見出しの後の欄は誤りを確かめずに読む。 -/
def TAuth.parse (buff : Bytes) : Option (Except ParseError (TAuth × Bytes)) :=
  match fcParse buff with
  | .error err => some (.error err)
  | .ok (fc, buff) => do
    let (afid, buff) ← fromLittleE32 buff
    let (uname, buff) ← fromString buff
    let (aname, buff) ← fromString buff
    pure (.ok ({ toFCall := fc, afid, uname, aname }, buff))

/-- `RAuth.Parse`。見出しと Qid のどちらの誤りも返す。 -/
def RAuth.parse (buff : Bytes) : Except ParseError (RAuth × Bytes) := do
  let (fc, buff) ← fcParse buff
  let (aqid, buff) ← Qid.parse buff
  pure ({ toFCall := fc, aqid }, buff)

/-! ## 書く -/

/-- `TAuth.Compose`。長さは `uint32` に変換してから `make` に渡す。 -/
def TAuth.compose (auth : TAuth) : Option Bytes := do
  let length : UInt32 := .ofNat (4 + 1 + 2 + 4 + (2 + auth.uname.length) + (2 + auth.aname.length))
  let buffer := Cursor.make length.toNat
  let buffer ← toLittleE32 length buffer
  let buffer ← buffer.put [auth.ctype]
  let buffer ← toLittleE16 auth.tag buffer
  let buffer ← toLittleE32 auth.afid buffer
  let buffer ← toString auth.uname buffer
  let buffer ← toString auth.aname buffer
  pure buffer.buff

/-- `RAuth.Compose`。長さは 20 に決まっている。 -/
def RAuth.compose (auth : RAuth) : Option Bytes := do
  let length := 4 + 1 + 2 + 13
  let buffer := Cursor.make length
  let buffer ← toLittleE32 (.ofNat length) buffer
  let buffer ← buffer.put [auth.ctype]
  let buffer ← toLittleE16 auth.tag buffer
  let qidbuffer := auth.aqid.compose
  pure (buffer.copy qidbuffer).buff

/-- `TAuth.Reply`。認証は使えないので、同じタグの誤りの返答を返す。型の番号 `rerror` は `src/` にない。 -/
def TAuth.reply (rerror : UInt8) (auth : TAuth) : RError :=
  { size := 0, ctype := rerror, tag := auth.tag, ename := "Not Enabled.".toUTF8.toList }

/-! ## 書いたバイト列 -/

theorem Cursor.put_of_le {bs : Bytes} {c : Cursor} (h : bs.length ≤ c.free) :
    c.put bs = some ⟨c.written ++ bs, c.free - bs.length⟩ := if_pos h

/-- `TAuth` の枠。長さ、型、タグ、afid、二つの文字列をこの順に並べる。 -/
def TAuth.frame (auth : TAuth) : Bytes :=
  leBytes 4 (4 + 1 + 2 + 4 + (2 + auth.uname.length) + (2 + auth.aname.length)) ++ auth.ctype ::
    (leBytes 2 auth.tag.toNat ++ (leBytes 4 auth.afid.toNat ++
      (leBytes 2 auth.uname.length ++ (auth.uname ++ (leBytes 2 auth.aname.length ++ auth.aname)))))

theorem TAuth.compose_eq (auth : TAuth)
    (h : 4 + 1 + 2 + 4 + (2 + auth.uname.length) + (2 + auth.aname.length) < 2 ^ 32) :
    auth.compose = some auth.frame := by
  simp only [TAuth.compose, toLittleE32, toLittleE16, toLittleE, toString, UInt32.toNat_ofNat_of_lt h,
    leBytes_two_ofNat, Option.bind_eq_bind, Option.bind_assoc, Cursor.put_bind_put]
  rw [Cursor.put_of_le (by simp [Cursor.make]; omega)]
  simp [Cursor.buff, Cursor.make, TAuth.frame]
  omega

/-- `RAuth` の枠。長さ 20、型、タグ、13 バイトの Qid。 -/
def RAuth.frame (auth : RAuth) : Bytes :=
  leBytes 4 20 ++ auth.ctype :: (leBytes 2 auth.tag.toNat ++ auth.aqid.compose)

theorem RAuth.compose_eq (auth : RAuth) : auth.compose = some auth.frame := by
  simp only [RAuth.compose, toLittleE32, toLittleE16, toLittleE, Option.bind_eq_bind, Option.bind_assoc,
    Cursor.put_bind_put]
  rw [Cursor.put_of_le (by simp [Cursor.make])]
  simp [Cursor.buff, Cursor.copy, Cursor.make, RAuth.frame, UInt32.size]

/-! ## 書いた枠を読む -/

/-- `TAuth` の枠を読むと、uname は書かれた長さの下位 2 バイトの分だけ読まれ、aname はその続きから読まれる。 -/
theorem TAuth.parse_frame (auth : TAuth)
    (h : 4 + 1 + 2 + 4 + (2 + auth.uname.length) + (2 + auth.aname.length) < 2 ^ 32) (rest : Bytes) :
    TAuth.parse (auth.frame ++ rest) =
      (fromString (auth.uname.drop (auth.uname.length % 2 ^ 16) ++
          (leBytes 2 auth.aname.length ++ (auth.aname ++ rest)))).map fun (aname, buff) =>
        .ok ({ auth with
          size := .ofNat (4 + 1 + 2 + 4 + (2 + auth.uname.length) + (2 + auth.aname.length)),
          uname := auth.uname.take (auth.uname.length % 2 ^ 16), aname }, buff) := by
  simp only [TAuth.frame, List.append_assoc, List.cons_append]
  rw [TAuth.parse, fcParse_leBytes _ _ _ _ (by simp; omega)]
  simp only [fromLittleE32_leBytes, fromString_leBytes_length, List.append_assoc,
    Option.bind_eq_bind, Option.some_bind, Option.map_eq_bind]
  rfl

theorem RAuth.parse_frame (auth : RAuth) (rest : Bytes) :
    RAuth.parse (auth.frame ++ rest) = .ok ({ auth with size := 20 }, rest) := by
  simp only [RAuth.frame, List.append_assoc, List.cons_append]
  rw [RAuth.parse, fcParse_leBytes _ _ _ _ (by simp; omega)]
  simp only [RAuth.parse, bind, Except.bind, Qid.parse_compose]
  rfl

/-! ## 読んだ枠を書き直す

読めたバイト列は、読んだ欄を順に書いたものに読み残しを続けたものである。そこから、長さの欄が読んだ欄から
決まる枠の長さに等しければ `Compose` は読んだバイト列をそのまま書くこと、`TAuth.Parse` が読む長さは
長さの欄によらないことが従う。
-/

theorem TAuth.parse_eq {b rest : Bytes} {m : TAuth} (h : TAuth.parse b = some (.ok (m, rest))) :
    b = leBytes 4 m.size.toNat ++ m.ctype :: (leBytes 2 m.tag.toNat ++ (leBytes 4 m.afid.toNat ++
      (leBytes 2 m.uname.length ++ (m.uname ++ (leBytes 2 m.aname.length ++ (m.aname ++ rest)))))) := by
  unfold TAuth.parse at h
  cases hf : fcParse b with
  | error e => simp [hf] at h
  | ok p =>
    obtain ⟨fc, b₁⟩ := p
    simp only [hf, Option.bind_eq_bind, Option.bind_eq_some] at h
    obtain ⟨⟨afid, b₂⟩, h₁, ⟨u, b₃⟩, h₂, ⟨a, b₄⟩, h₃, h⟩ := h
    cases h
    dsimp only at h₂ h₃ ⊢
    rw [fcParse_eq hf, fromLittleE32_eq h₁, (fromString_eq h₂).1, (fromString_eq h₃).1]

theorem RAuth.parse_eq {b rest : Bytes} {r : RAuth} (h : RAuth.parse b = .ok (r, rest)) :
    b = leBytes 4 r.size.toNat ++ r.ctype :: (leBytes 2 r.tag.toNat ++ (r.aqid.compose ++ rest)) := by
  unfold RAuth.parse at h
  cases hf : fcParse b with
  | error e => simp [hf, bind, Except.bind] at h
  | ok p =>
    obtain ⟨fc, b₁⟩ := p
    cases hq : Qid.parse b₁ with
    | error e => simp [hf, hq, bind, Except.bind] at h
    | ok q =>
      obtain ⟨qid, b₂⟩ := q
      simp only [hf, hq, bind, Except.bind, pure, Except.pure, Except.ok.injEq, Prod.mk.injEq] at h
      obtain ⟨rfl, rfl⟩ := h
      rw [fcParse_eq hf, Qid.parse_eq hq]

theorem TAuth.compose_of_parse {b rest : Bytes} {m : TAuth} (h : TAuth.parse b = some (.ok (m, rest)))
    (hsize : m.size.toNat = 4 + 1 + 2 + 4 + (2 + m.uname.length) + (2 + m.aname.length)) :
    m.compose.map (· ++ rest) = some b := by
  rw [TAuth.compose_eq _ (hsize ▸ m.size.toNat_lt), Option.map_some', TAuth.parse_eq h]
  simp [TAuth.frame, ← hsize]

theorem RAuth.compose_of_parse {b rest : Bytes} {r : RAuth} (h : RAuth.parse b = .ok (r, rest))
    (hsize : r.size = 20) : r.compose.map (· ++ rest) = some b := by
  rw [RAuth.compose_eq, Option.map_some', RAuth.parse_eq h]
  simp [RAuth.frame, hsize, UInt32.size]

/-- `TAuth.Parse` が読む長さは、見出し、afid、長さの付いた二つの文字列の長さの和である。 -/
theorem TAuth.parse_length {b rest : Bytes} {m : TAuth} (h : TAuth.parse b = some (.ok (m, rest))) :
    b.length = 4 + 1 + 2 + 4 + (2 + m.uname.length) + (2 + m.aname.length) + rest.length := by
  rw [TAuth.parse_eq h]
  simp
  omega

/-! ## 読む範囲 -/

/-- `RAuth.Parse` が読めたときは、20 バイトを読み、見出しの長さはバッファに収まっていた。 -/
theorem RAuth.parse_ok {b rest : Bytes} {r : RAuth} (h : RAuth.parse b = .ok (r, rest)) :
    rest = b.drop 20 ∧ 20 ≤ b.length ∧ leValue (b.take 4) ≤ b.length := by
  unfold RAuth.parse at h
  cases hf : fcParse b with
  | error e => simp [hf, bind, Except.bind] at h
  | ok p =>
    obtain ⟨fc, buff⟩ := p
    obtain ⟨rfl, h7, hs⟩ := fcParse_ok hf
    cases hq : Qid.parse (b.drop 7) with
    | error e => simp [hf, hq, bind, Except.bind] at h
    | ok q =>
      obtain ⟨qid, buff'⟩ := q
      obtain ⟨rfl, h13⟩ := Qid.parse_ok hq
      simp only [hf, hq, bind, Except.bind, pure, Except.pure, Except.ok.injEq, Prod.mk.injEq] at h
      rw [← h.2, List.drop_drop]
      simp at h13
      exact ⟨rfl, by omega, hs⟩

/-- 見出しが読めても afid の 4 バイトが足りなければ、`TAuth.Parse` は誤りを返さずに panic する。 -/
theorem TAuth.parse_none_of_short_afid {b buff : Bytes} {fc : FCall}
    (hf : fcParse b = .ok (fc, buff)) (hb : buff.length < 4) : TAuth.parse b = none := by
  have : fromLittleE32 buff = none := by simp [fromLittleE32, fromLittleE]; omega
  simp [TAuth.parse, hf, this]

end Go9p
