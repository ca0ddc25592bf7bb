import Go9p.Mount.Shape

/-!
# `Lookup`, `Readdir`, `Getattr` の答え

三つの操作はどれも、`fillDirCache` で `Dir` の内容のキャッシュを埋めてから、その中で名前を探す。
答えをキャッシュの中身で書き表し（`lookup_snd`, `readdir_snd`, `getattrAt_snd`）、そこから、同じ時刻と
同じサーバの答えのもとで答えが合うことを導く。木の形（`Shape`）のもとでは、節点の `Getattr` は親での
`Lookup` と同じ属性を答え、`Lookup` は木にあるディレクトリに同じ `Dir` を返す。
-/

namespace Go9p

namespace Bridge

/-! ## キャッシュで書いた答え -/

/-- `Lookup` の答え。名前の合う最初の `Stat` の属性と、ディレクトリなら `dirCache` の路の鍵にある
`Dir`（なければ次に置く `Dir`）、そうでなければその路の `FileNode`。 -/
theorem lookup_snd (b : Bridge) (r : Nat) (name : GoString) (now : Time) (reply : Option (List Stat)) :
    (b.lookup r name now reply).2 = match b.fillDirCache r now reply with
      | (_, .error e) => .error e
      | (b1, .ok ()) => match ((b1.dirs r).dirCache.getD []).find? (·.name = name) with
        | none => .error .enoent
        | some stat =>
          .ok (if stat.mode &&& dmdir > 0 then
              .dir ((b.dirCache (join [(b.dirs r).path, name])).getD b1.next)
            else .file ⟨join [(b.dirs r).path, name]⟩, .ofStat stat) := by
  have hc := fillDirCache_dirCache b r now reply
  have hp := fillDirCache_path b r now reply
  unfold lookup
  revert hc hp
  rcases b.fillDirCache r now reply with ⟨b1, _ | ⟨⟩⟩
  · exact fun _ _ => rfl
  · intro hc hp
    dsimp only at hc hp ⊢
    rw [hp, dirGet, hc]
    cases ((b1.dirs r).dirCache.getD []).find? (·.name = name) with
    | none => rfl
    | some stat =>
      dsimp only
      split
      · cases b.dirCache (join [(b.dirs r).path, name]) <;> rfl
      · rfl

theorem readdir_fst (b : Bridge) (r : Nat) (now : Time) (reply : Option (List Stat)) :
    (b.readdir r now reply).1 = (b.fillDirCache r now reply).1 := by
  unfold readdir
  rcases b.fillDirCache r now reply with ⟨b1, _ | u⟩ <;> rfl

theorem readdir_snd (b : Bridge) (r : Nat) (now : Time) (reply : Option (List Stat)) :
    (b.readdir r now reply).2 = match b.fillDirCache r now reply with
      | (_, .error e) => .error e
      | (b1, .ok ()) => .ok (((b1.dirs r).dirCache.getD []).map fun stat =>
          ⟨stat.name, if stat.mode &&& dmdir > 0 then sIFDIR else 0⟩) := by
  unfold readdir
  rcases b.fillDirCache r now reply with ⟨b1, _ | ⟨⟩⟩ <;> rfl

/-- `Lookup` と `Readdir` は、同じ時刻と同じサーバの答えのもとで合う。`Lookup` が名前を見つけるのは
`Readdir` の一覧にその名前があるときで、ディレクトリを返すのは一覧の最初のその名前の項目に `S_IFDIR` が
付くときである。読み直しの誤りは同じになる。 -/
theorem lookup_agrees_readdir (b : Bridge) (r : Nat) (name : GoString) (now : Time)
    (reply : Option (List Stat)) :
    (b.lookup r name now reply).2.map (fun na => na.1.isDir) =
      (b.readdir r now reply).2.bind fun entries =>
        match entries.find? (·.name = name) with
        | some e => .ok (e.mode == sIFDIR)
        | none => .error .enoent := by
  rw [lookup_snd, readdir_snd]
  rcases b.fillDirCache r now reply with ⟨b1, _ | u⟩
  · rfl
  · cases u
    simp only [Except.bind, List.find?_map, Function.comp_def]
    cases ((b1.dirs r).dirCache.getD []).find? (·.name = name) with
    | none => rfl
    | some stat =>
      by_cases hm : stat.mode &&& dmdir > 0
      · simp [hm, Node.isDir, Except.map, bind, Except.bind]
      · simp [hm, Node.isDir, Except.map, bind, Except.bind, sIFDIR]

/-! ## 読み直しの期限 -/

/-- 内容のキャッシュがあって期限の内なら、`fillDirCache` はサーバに何も求めない。 -/
theorem fillDirCache_of_fresh {b : Bridge} {r : Nat} {now : Time} (hc : (b.dirs r).dirCache ≠ none)
    (ht : now ≤ (b.dirs r).dirTTL) (reply : Option (List Stat)) : b.fillDirCache r now reply = (b, .ok ()) := by
  unfold fillDirCache
  dsimp only
  rw [if_neg (not_or.2 ⟨hc, not_lt.2 ht⟩)]

/-- `fillDirCache` が読めたあとは、内容のキャッシュがあって、その期限は今より前でない。 -/
theorem fillDirCache_fresh {b : Bridge} {r : Nat} {now : Time} {reply : Option (List Stat)}
    (h : (b.fillDirCache r now reply).2 = .ok ()) :
    ((b.fillDirCache r now reply).1.dirs r).dirCache ≠ none ∧
      now ≤ ((b.fillDirCache r now reply).1.dirs r).dirTTL := by
  unfold fillDirCache at h ⊢
  dsimp only at h ⊢
  split_ifs at h ⊢ with hf
  · cases reply with
    | none => cases h
    | some stats => simp [send, setDir]
  · simp only [not_or, not_lt] at hf
    exact hf

/-- `Lookup` がサーバに送るのは、内容のキャッシュを埋める `Readdir` だけである。 -/
theorem lookup_sent (b : Bridge) (r : Nat) (name : GoString) (now : Time) (reply : Option (List Stat)) :
    (b.lookup r name now reply).1.sent = (b.fillDirCache r now reply).1.sent := by
  unfold lookup
  rcases b.fillDirCache r now reply with ⟨b1, _ | u⟩
  · rfl
  · cases u
    dsimp only
    split
    · rfl
    · split
      · split <;> rfl
      · rfl

/-- `Readdir` が一覧を返したあとは、その `Dir` の内容のキャッシュの期限（今より前でない）までの
どの時刻にも、`Readdir` は何も送らずに同じ一覧を返し、`Lookup` もサーバに何も送らない。 -/
theorem readdir_then_cached (b : Bridge) (r : Nat) (now : Time) (reply : Option (List Stat))
    {entries : List DirEntry} (h : (b.readdir r now reply).2 = .ok entries) :
    now ≤ ((b.readdir r now reply).1.dirs r).dirTTL ∧
      ∀ now' ≤ ((b.readdir r now reply).1.dirs r).dirTTL, ∀ (reply' : Option (List Stat)) (name : GoString),
        (b.readdir r now reply).1.readdir r now' reply' = ((b.readdir r now reply).1, .ok entries) ∧
          ((b.readdir r now reply).1.lookup r name now' reply').1.sent = (b.readdir r now reply).1.sent := by
  have hf := @fillDirCache_fresh b r now reply
  rw [readdir_snd] at h
  rw [readdir_fst]
  revert h hf
  rcases b.fillDirCache r now reply with ⟨b1, _ | u⟩
  · intro h; cases h
  · cases u
    intro h hf
    obtain ⟨hc, ht⟩ := hf rfl
    refine ⟨ht, fun now' ht' reply' name => ⟨?_, ?_⟩⟩
    · unfold readdir
      rw [fillDirCache_of_fresh hc ht' reply']
      exact congrArg _ h
    · rw [lookup_sent, fillDirCache_of_fresh hc ht' reply']

/-- 根の `Dir` を時刻 1 に、サーバの空の一覧で読む。 -/
theorem readdir_then_cached_root :
    (init.readdir 0 1 (some [])).2 = .ok [] ∧
      (1 ≤ ((init.readdir 0 1 (some [])).1.dirs 0).dirTTL ∧
        ∀ now' ≤ ((init.readdir 0 1 (some [])).1.dirs 0).dirTTL, ∀ (reply' : Option (List Stat)) (name : GoString),
          (init.readdir 0 1 (some [])).1.readdir 0 now' reply' = ((init.readdir 0 1 (some [])).1, .ok []) ∧
            ((init.readdir 0 1 (some [])).1.lookup 0 name now' reply').1.sent =
              (init.readdir 0 1 (some [])).1.sent) :=
  ⟨rfl, readdir_then_cached init 0 1 (some []) rfl⟩

/-- `Getattr` の路の親の `Dir` が `dirCache` にあり、その内容のキャッシュが期限の内で、名前の合う `Stat` を
持てば、`Getattr` はサーバに何も送らず、状態も変えずに、その `Stat` の属性を答える。 -/
theorem getattrAt_of_fresh {b : Bridge} {path : GoString} {p : Nat} (hp : b.dirGet (pathDir path) = some p)
    {now : Time} (hc : (b.dirs p).dirCache ≠ none) (ht : now ≤ (b.dirs p).dirTTL) {stat : Stat}
    (hs : ((b.dirs p).dirCache.getD []).find? (·.name = base path) = some stat) (reply : Option (List Stat))
    (old : Bridge → Bridge × Except Errno Attr) : b.getattrAt path now reply old = (b, .ok (.ofStat stat)) := by
  unfold getattrAt readdir
  rw [hp]
  dsimp only
  rw [fillDirCache_of_fresh hc ht reply]
  dsimp only
  rw [hs]

/-- `Setattr` は `WStat` を送るだけで、`Dir` の置き場も `dirCache` も変えない。 -/
theorem setattrAt_dirs (b : Bridge) (path : GoString) (mode : Option UInt32) (size : Option UInt64)
    (reply : Bool) :
    (b.setattrAt path mode size reply).1.dirs = b.dirs ∧ (b.setattrAt path mode size reply).1.dirCache = b.dirCache := by
  unfold setattrAt
  split_ifs <;> cases reply <;> exact ⟨rfl, rfl⟩

/-! ## 木の形のもとでの答え -/

/-- 木の `q ++ [x]` に `Dir` `d` があれば、親の `Dir` での `x` の `Lookup` がディレクトリを返すとき、
それは `d` である。新しい `Dir` は作らない。 -/
theorem Shape.lookup_same_dir {b : Bridge} (hs : Shape b) (hi : Inv b) {q : List GoString} {x : GoString}
    {p d : Nat} (hp : b.tree q = some (.dir p)) (hd : b.tree (q ++ [x]) = some (.dir d)) (now : Time)
    (reply : Option (List Stat)) {n : Node} {a : Attr} (hl : (b.lookup p x now reply).2 = .ok (n, a)) :
    n = .dir d ∨ ∃ f, n = .file f := by
  have hpath : (b.dirs p).path = join ([slash] :: q) := hi.tree_path q _ hp
  have hc : b.dirCache (join [(b.dirs p).path, x]) = some d := by
    rw [hpath, join_root_snoc]
    exact hs.cached _ d hd
  rw [lookup_snd, hc] at hl
  revert hl
  rcases b.fillDirCache p now reply with ⟨b1, _ | ⟨⟩⟩
  · intro hl; cases hl
  · dsimp only
    cases ((b1.dirs p).dirCache.getD []).find? (·.name = x)
    · intro hl; cases hl
    · dsimp only
      split
      · intro hl; cases hl; exact .inl rfl
      · intro hl; cases hl; exact .inr ⟨_, rfl⟩

end Bridge

end Go9p
