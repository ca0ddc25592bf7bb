import Go9p.Proto.Auth

/-!
# 認証のメッセージの読み書きについての定理

仕様書 4.1 節の二つの性質を `TAuth` と `RAuth` について述べる。読み取りはバッファの外を読まず、
足りなければ誤りを返すこと。書いて読むと元のメッセージに戻ること（往復の法則）。逆に、読めた枠は
長さの欄が正しければ、`Compose` で同じバイト列に書き直されること。
-/

namespace Go9p

/-! ## 読み取りの範囲 -/

/-- `RAuth.Parse` はバッファの後ろの部分を残りとして返し、見出し、見出しの長さ、Qid のどれかが
足りなければ誤りを返す。 -/
theorem rauth_parse_within_buffer (b : Bytes) :
    (∀ r rest, RAuth.parse b = .ok (r, rest) → rest <:+ b) ∧
    (b.length < 7 ∨ b.length < leValue (b.take 4) ∨ b.length < 20 → ∃ e, RAuth.parse b = .error e) := by
  refine ⟨fun r rest h => ?_, fun h => ?_⟩
  · rw [(RAuth.parse_ok h).1]
    exact List.drop_suffix _ _
  · cases hb : RAuth.parse b with
    | error e => exact ⟨e, rfl⟩
    | ok p => have := RAuth.parse_ok hb; omega

/-- 見出しだけの 7 バイトの枠で、`TAuth.Parse` は afid を読もうとして panic する。同じ枠を
`RAuth.Parse` は Qid の誤りとして返す。 -/
theorem tauth_parse_panics_past_header :
    TAuth.parse [7, 0, 0, 0, 102, 0, 0] = none ∧ RAuth.parse [7, 0, 0, 0, 103, 0, 0] = .error .qid :=
  ⟨rfl, rfl⟩

/-! ## 往復の法則 -/

/-- 書いて読むと、長さの欄のほかは元に戻り、長さの欄は枠の長さになり、後ろのバイトはそのまま残る。
`TAuth` では二つの文字列がそれぞれ 2^16 バイトより短いときに限る。 -/
theorem auth_compose_parse_round_trip :
    (∀ (m : TAuth) (rest : Bytes), m.uname.length < 2 ^ 16 → m.aname.length < 2 ^ 16 →
      ∃ bs, m.compose = some bs ∧ bs.length < 2 ^ 32 ∧
        TAuth.parse (bs ++ rest) = some (.ok ({ m with size := .ofNat bs.length }, rest))) ∧
    (∀ (r : RAuth) (rest : Bytes), ∃ bs, r.compose = some bs ∧ bs.length = 20 ∧
        RAuth.parse (bs ++ rest) = .ok ({ r with size := .ofNat bs.length }, rest)) := by
  refine ⟨fun m rest hu ha => ?_, fun r rest => ⟨r.frame, r.compose_eq, by simp [RAuth.frame], ?_⟩⟩
  · have hlen : m.frame.length = 4 + 1 + 2 + 4 + (2 + m.uname.length) + (2 + m.aname.length) := by
      simp [TAuth.frame]; omega
    refine ⟨m.frame, m.compose_eq (by omega), by omega, ?_⟩
    rw [TAuth.parse_frame m (by omega), Nat.mod_eq_of_lt hu, List.drop_length, List.take_length,
      List.nil_append, fromString_leBytes_length, Nat.mod_eq_of_lt ha, hlen]
    simp
  · simpa [RAuth.frame] using r.parse_frame rest

theorem auth_compose_parse_round_trip_short :
    ∃ bs, TAuth.compose ⟨⟨0, 102, 1⟩, 2, [110], []⟩ = some bs ∧ bs.length < 2 ^ 32 ∧
      TAuth.parse (bs ++ [9]) = some (.ok (⟨⟨.ofNat bs.length, 102, 1⟩, 2, [110], []⟩, [9])) :=
  auth_compose_parse_round_trip.1 ⟨⟨0, 102, 1⟩, 2, [110], []⟩ [9] (by decide) (by decide)

/-- 2^16 バイトの uname は、長さの欄が 0 になって書かれるので、読み戻すと空になる。 -/
theorem tauth_round_trip_fails_at_long_uname :
    ¬ ∀ (m : TAuth) (rest : Bytes), ∃ bs, m.compose = some bs ∧
      TAuth.parse (bs ++ rest) = some (.ok ({ m with size := .ofNat bs.length }, rest)) := by
  intro h
  let m : TAuth := ⟨⟨0, 0, 0⟩, 0, List.replicate (2 ^ 16) 0, []⟩
  have hlen : m.uname.length = 2 ^ 16 := List.length_replicate _ _
  have htot : 4 + 1 + 2 + 4 + (2 + m.uname.length) + (2 + m.aname.length) < 2 ^ 32 := by
    rw [hlen]; decide
  obtain ⟨bs, hc, hp⟩ := h m []
  rw [m.compose_eq htot, Option.some.injEq] at hc
  subst hc
  rw [m.parse_frame htot, hlen] at hp
  obtain ⟨⟨_, _⟩, -, he⟩ := Option.map_eq_some'.mp hp
  simp only [Except.ok.injEq, Prod.mk.injEq, TAuth.mk.injEq, Nat.mod_self, List.take_zero] at he
  have := congrArg List.length he.1.2.2.1
  rw [List.length_nil, hlen] at this
  exact absurd this (by decide)

/-! ## 読んで書く -/

/-- 読んで書くと元のバイト列に戻る。読めた枠の長さの欄が、読んだ欄から決まる枠の長さ（`RAuth` では 20）
に等しければ、`Compose` は読んだ部分をそのまま書き、読み残しをつなぐと読んだバッファになる。 -/
theorem auth_parse_compose_round_trip :
    (∀ (b rest : Bytes) (m : TAuth), TAuth.parse b = some (.ok (m, rest)) →
      m.size.toNat = 4 + 1 + 2 + 4 + (2 + m.uname.length) + (2 + m.aname.length) →
        m.compose.map (· ++ rest) = some b) ∧
    (∀ (b rest : Bytes) (r : RAuth), RAuth.parse b = .ok (r, rest) → r.size = 20 →
      r.compose.map (· ++ rest) = some b) :=
  ⟨fun _ _ _ h hs => TAuth.compose_of_parse h hs, fun _ _ _ h hs => RAuth.compose_of_parse h hs⟩

/-- uname が `"n"` の `TAuth` の枠と `RAuth` の枠に、それぞれ 1 バイトを続けたもの。 -/
theorem auth_parse_compose_round_trip_frames :
    let tb : Bytes := [16, 0, 0, 0, 102, 1, 0, 2, 0, 0, 0, 1, 0, 110, 0, 0, 9]
    let rb : Bytes := [20, 0, 0, 0, 103, 1, 0, 0, 1, 0, 0, 0, 7, 0, 0, 0, 0, 0, 0, 0, 9]
    let m : TAuth := ⟨⟨16, 102, 1⟩, 2, [110], []⟩
    let r : RAuth := ⟨⟨20, 103, 1⟩, ⟨0, 1, 7⟩⟩
    (TAuth.parse tb = some (.ok (m, [9])) ∧
      m.size.toNat = 4 + 1 + 2 + 4 + (2 + m.uname.length) + (2 + m.aname.length) ∧
      m.compose.map (· ++ [9]) = some tb) ∧
    (RAuth.parse rb = .ok (r, [9]) ∧ r.size = 20 ∧ r.compose.map (· ++ [9]) = some rb) :=
  ⟨⟨rfl, rfl, auth_parse_compose_round_trip.1 [16, 0, 0, 0, 102, 1, 0, 2, 0, 0, 0, 1, 0, 110, 0, 0, 9] [9]
      ⟨⟨16, 102, 1⟩, 2, [110], []⟩ rfl rfl⟩,
    ⟨rfl, rfl, auth_parse_compose_round_trip.2 [20, 0, 0, 0, 103, 1, 0, 0, 1, 0, 0, 0, 7, 0, 0, 0, 0, 0, 0, 0, 9]
      [9] ⟨⟨20, 103, 1⟩, ⟨0, 1, 7⟩⟩ rfl rfl⟩⟩

/-- 読む長さは欄から決まり、見出しの長さの欄によらない。`TAuth.Parse` は見出し、afid、長さの付いた
二つの文字列を読み、長さの欄がそれより短くても残りを読み進める。`RAuth.Parse` はいつも 20 バイトを読む。 -/
theorem auth_parse_extent :
    (∀ (b rest : Bytes) (m : TAuth), TAuth.parse b = some (.ok (m, rest)) →
      b.length = 4 + 1 + 2 + 4 + (2 + m.uname.length) + (2 + m.aname.length) + rest.length) ∧
    (∀ (b rest : Bytes) (r : RAuth), RAuth.parse b = .ok (r, rest) → b.length = 20 + rest.length) :=
  ⟨fun _ _ _ h => TAuth.parse_length h, fun _ _ _ h => by
    have := RAuth.parse_ok h
    rw [this.1, List.length_drop]
    omega⟩

/-- 長さの欄が見出しの 7 バイトしか言わない `TAuth` の枠と、`RAuth` の枠。どちらも 1 バイトが続く。 -/
theorem auth_parse_extent_short_size :
    (TAuth.parse [7, 0, 0, 0, 102, 1, 0, 2, 0, 0, 0, 1, 0, 110, 0, 0, 9] =
        some (.ok (⟨⟨7, 102, 1⟩, 2, [110], []⟩, [9])) ∧
      ([7, 0, 0, 0, 102, 1, 0, 2, 0, 0, 0, 1, 0, 110, 0, 0, 9] : Bytes).length =
        4 + 1 + 2 + 4 + (2 + [(110 : UInt8)].length) + (2 + ([] : Bytes).length) + [(9 : UInt8)].length) ∧
    (RAuth.parse [20, 0, 0, 0, 103, 1, 0, 0, 1, 0, 0, 0, 7, 0, 0, 0, 0, 0, 0, 0, 9] = .ok (⟨⟨20, 103, 1⟩, ⟨0, 1, 7⟩⟩, [9]) ∧
      ([20, 0, 0, 0, 103, 1, 0, 0, 1, 0, 0, 0, 7, 0, 0, 0, 0, 0, 0, 0, 9] : Bytes).length = 20 + [(9 : UInt8)].length) :=
  ⟨⟨rfl, auth_parse_extent.1 [7, 0, 0, 0, 102, 1, 0, 2, 0, 0, 0, 1, 0, 110, 0, 0, 9] [9]
      ⟨⟨7, 102, 1⟩, 2, [110], []⟩ rfl⟩,
    ⟨rfl, auth_parse_extent.2 [20, 0, 0, 0, 103, 1, 0, 0, 1, 0, 0, 0, 7, 0, 0, 0, 0, 0, 0, 0, 9] [9]
      ⟨⟨20, 103, 1⟩, ⟨0, 1, 7⟩⟩ rfl⟩⟩

end Go9p
