import Go9p.Fs.Node

/-!
# Go の `path` パッケージ

橋渡し（`mount9p`）が使う `path.Join`, `path.Dir`, `path.Base` と、それらが使う `path.Clean`。
`Clean` は Go の文書の規則を、路の要素の上で述べる。`'/'` で区切った要素を順に読み、空の要素と
`"."` を捨て、`".."` は直前の要素を取り除く（根から始まる路では、根より上へは行かない）。
-/

namespace Go9p

/-- `'.'` のバイト。 -/
def dot : UInt8 := 46

/-- 路を `'/'` で区切った要素。空の要素も残す。 -/
def splitSlash : GoString → List GoString
  | [] => [[]]
  | c :: s =>
    if c = slash then [] :: splitSlash s
    else match splitSlash s with
      | [] => [[c]]
      | e :: es => (c :: e) :: es

/-- `Clean` が要素を一つ読む。`st` はそれまでに残った要素を、後ろから並べたもの。 -/
def cleanStep (rooted : Bool) (st : List GoString) (e : GoString) : List GoString :=
  if e = [] ∨ e = [dot] then st
  else if e = [dot, dot] then
    match st with
    | top :: rest => if top = [dot, dot] then [dot, dot] :: st else rest
    | [] => if rooted then [] else [[dot, dot]]
  else e :: st

/-- `path.Clean`。 -/
def clean (p : GoString) : GoString :=
  if p = [] then [dot]
  else
    let rooted := p.head? = some slash
    let st := (splitSlash p).foldl (cleanStep rooted) []
    if rooted then slash :: List.intercalate [slash] st.reverse
    else if st = [] then [dot] else List.intercalate [slash] st.reverse

/-- `path.Join` のループの一回。バッファが空でなければ `'/'` を挟んで要素を足す。 -/
def joinStep (buf e : GoString) : GoString :=
  if buf.length > 0 ∨ e ≠ [] then (if buf.length > 0 then buf ++ [slash] else buf) ++ e else buf

/-- `path.Join` がつなぐバッファ。 -/
def joinBuf (elems : List GoString) : GoString := elems.foldl joinStep []

/-- `path.Join` が最初に数える、要素の長さの和。 -/
def joinSize (elems : List GoString) : Nat := elems.foldl (fun size e => size + e.length) 0

/-- `path.Join`。要素が全て空なら空の文字列、そうでなければつないで `Clean` する。 -/
def join (elems : List GoString) : GoString :=
  if joinSize elems = 0 then [] else clean (joinBuf elems)

/-- `path.Split` の前半。最後の `'/'` までを残す。 -/
def splitDir (p : GoString) : GoString := (p.reverse.dropWhile (· ≠ slash)).reverse

/-- `path.Dir`。 -/
def pathDir (p : GoString) : GoString := clean (splitDir p)

/-- `path.Base`。後ろの `'/'` を除き、最後の要素を返す。 -/
def base (p : GoString) : GoString :=
  if p = [] then [dot]
  else
    let p := (p.reverse.dropWhile (· = slash)).reverse
    let p := (p.reverse.takeWhile (· ≠ slash)).reverse
    if p = [] then [slash] else p

/-! ## 要素への分け方 -/

theorem splitSlash_ne_nil (p : GoString) : splitSlash p ≠ [] := by
  cases p with
  | nil => simp [splitSlash]
  | cons c s =>
    unfold splitSlash
    split_ifs
    · simp
    · split <;> simp

theorem splitSlash_append (x y : GoString) :
    splitSlash (x ++ slash :: y) = splitSlash x ++ splitSlash y := by
  induction x with
  | nil => simp [splitSlash]
  | cons c x ih =>
    by_cases hc : c = slash
    · simp [splitSlash, hc, ih]
    · obtain ⟨e, es, he⟩ := List.exists_cons_of_ne_nil (splitSlash_ne_nil x)
      simp [splitSlash, hc, ih, he]

theorem splitSlash_of_not_mem {e : GoString} (h : slash ∉ e) : splitSlash e = [e] := by
  induction e with
  | nil => rfl
  | cons c e ih =>
    have hc : c ≠ slash := fun hc => h (hc ▸ List.mem_cons_self _ _)
    simp [splitSlash, hc, ih (fun hm => h (List.mem_cons_of_mem _ hm))]

theorem not_mem_of_mem_splitSlash {p e : GoString} (h : e ∈ splitSlash p) : slash ∉ e := by
  induction p generalizing e with
  | nil => simp [splitSlash] at h; simp [h]
  | cons c p ih =>
    by_cases hc : c = slash
    · simp only [splitSlash, hc, if_true, List.mem_cons] at h
      rcases h with rfl | h
      · simp
      · exact ih h
    · obtain ⟨e', es, he⟩ := List.exists_cons_of_ne_nil (splitSlash_ne_nil p)
      simp only [splitSlash, hc, if_false, he, List.mem_cons] at h
      rcases h with rfl | h
      · have := ih (he ▸ List.mem_cons_self e' es)
        simp [Ne.symm hc, this]
      · exact ih (he ▸ List.mem_cons_of_mem _ h)

theorem splitSlash_intercalate :
    ∀ {es : List GoString}, es ≠ [] → (∀ e ∈ es, slash ∉ e) →
      splitSlash (List.intercalate [slash] es) = es
  | [e], _, h => by simpa [List.intercalate] using splitSlash_of_not_mem (h e (List.mem_singleton_self _))
  | e :: e' :: es, _, h => by
    rw [intercalate_cons_of_ne_nil _ _ (List.cons_ne_nil _ _), List.singleton_append, splitSlash_append, splitSlash_of_not_mem (h e (List.mem_cons_self _ _)),
      splitSlash_intercalate (List.cons_ne_nil _ _) (fun x hx => h x (List.mem_cons_of_mem _ hx))]
    rfl

/-! ## 根から始まる路の `Clean` -/

/-- `Clean` が根から始まる路に残す要素。空でなく、`"."` でも `".."` でもなく、`'/'` を含まない。 -/
def Proper (e : GoString) : Prop := e ≠ [] ∧ e ≠ [dot] ∧ e ≠ [dot, dot] ∧ slash ∉ e

instance : DecidablePred Proper := fun _ => inferInstanceAs (Decidable (_ ∧ _ ∧ _ ∧ _))

theorem cleanStep_proper {st : List GoString} {e : GoString} (he : Proper e) :
    cleanStep true st e = e :: st := by
  obtain ⟨h₁, h₂, h₃, -⟩ := he
  simp [cleanStep, h₁, h₂, h₃]

theorem foldl_cleanStep_proper (st : List GoString) {es : List GoString} (h : ∀ e ∈ es, Proper e) :
    es.foldl (cleanStep true) st = es.reverse ++ st := by
  induction es generalizing st with
  | nil => rfl
  | cons e es ih =>
    rw [List.foldl_cons, cleanStep_proper (h e (List.mem_cons_self _ _)),
      ih _ (fun x hx => h x (List.mem_cons_of_mem _ hx))]
    simp

/-- 根から始まる路では、残る要素はいつも `Proper` である。 -/
theorem foldl_cleanStep_keeps_proper {st es : List GoString} (hst : ∀ x ∈ st, Proper x)
    (hes : ∀ e ∈ es, slash ∉ e) : ∀ x ∈ es.foldl (cleanStep true) st, Proper x := by
  induction es generalizing st with
  | nil => exact hst
  | cons e es ih =>
    refine ih (fun x hx => ?_) (fun x hx => hes x (List.mem_cons_of_mem _ hx))
    unfold cleanStep at hx
    by_cases h₁ : e = [] ∨ e = [dot]
    · rw [if_pos h₁] at hx; exact hst x hx
    rw [if_neg h₁] at hx
    by_cases h₂ : e = [dot, dot]
    · rw [if_pos h₂] at hx
      cases st with
      | nil => simp at hx
      | cons top rest =>
        have htop := hst top (List.mem_cons_self _ _)
        simp only [if_neg htop.2.2.1] at hx
        exact hst x (List.mem_cons_of_mem _ hx)
    · rw [if_neg h₂] at hx
      rcases List.mem_cons.mp hx with rfl | hx
      · exact ⟨fun h => h₁ (Or.inl h), fun h => h₁ (Or.inr h), h₂, hes x (List.mem_cons_self _ _)⟩
      · exact hst x hx

/-- 根から始まる路で `Clean` が残す要素の列（後ろから並べたもの）。 -/
def rootedStack (p : GoString) : List GoString := (splitSlash p).foldl (cleanStep true) []

theorem clean_rooted {p : GoString} (hp : p.head? = some slash) :
    clean p = slash :: List.intercalate [slash] (rootedStack p).reverse := by
  have hne : p ≠ [] := by rintro rfl; simp at hp
  simp [clean, hne, hp, rootedStack]

theorem rootedStack_proper (p : GoString) : ∀ x ∈ rootedStack p, Proper x :=
  foldl_cleanStep_keeps_proper (by simp) (fun _ => not_mem_of_mem_splitSlash)

/-- 一度 `Clean` した路の後ろに要素をつないでから `Clean` しても、結果は変わらない。 -/
theorem clean_clean_append {p : GoString} (hp : p.head? = some slash) (y : GoString) :
    clean (clean p ++ slash :: y) = clean (p ++ slash :: y) := by
  have hst := rootedStack_proper p
  have hsplit : splitSlash (clean p) = [] :: (rootedStack p).reverse ∨
      (splitSlash (clean p) = [[], []] ∧ rootedStack p = []) := by
    rw [clean_rooted hp, ← List.nil_append (slash :: _), splitSlash_append]
    by_cases h : rootedStack p = []
    · right; simp [h, splitSlash]
    · left
      rw [splitSlash_intercalate (by simpa using h) (fun e he => (hst e (List.mem_reverse.mp he)).2.2.2)]
      rfl
  have hfold : (splitSlash (clean p)).foldl (cleanStep true) [] = rootedStack p := by
    rcases hsplit with h | ⟨h, h'⟩
    · rw [h, List.foldl_cons, show cleanStep true [] [] = [] by simp [cleanStep],
        foldl_cleanStep_proper _ (fun x hx => hst x (List.mem_reverse.mp hx))]
      simp
    · rw [h, h']; rfl
  have hc : (clean p ++ slash :: y).head? = some slash := by rw [clean_rooted hp]; rfl
  have hq : (p ++ slash :: y).head? = some slash := by
    obtain ⟨c, p', rfl⟩ := List.exists_cons_of_ne_nil (show p ≠ [] by rintro rfl; simp at hp)
    simpa using hp
  rw [clean_rooted hc, clean_rooted hq, rootedStack, rootedStack, splitSlash_append, splitSlash_append,
    List.foldl_append, List.foldl_append, hfold, rootedStack]

/-! ## `Join` -/

theorem foldl_joinStep {buf : GoString} (hb : buf ≠ []) (es : List GoString) :
    es.foldl joinStep buf = buf ++ (es.map (slash :: ·)).flatten := by
  induction es generalizing buf with
  | nil => simp
  | cons e es ih =>
    have hl : buf.length > 0 := List.length_pos.mpr hb
    rw [List.foldl_cons, joinStep, if_pos (Or.inl hl), if_pos hl,
      ih (by simp)]
    simp

theorem join_cons {a : GoString} (ha : a ≠ []) (es : List GoString) :
    join (a :: es) = clean (a ++ (es.map (slash :: ·)).flatten) := by
  have hl : a.length ≠ 0 := by simpa using ha
  have hs : joinSize (a :: es) ≠ 0 := by
    have h : ∀ (n : Nat) (es : List GoString), n ≤ es.foldl (fun size e => size + e.length) n := by
      intro n es
      induction es generalizing n with
      | nil => exact le_rfl
      | cons e es ih => exact le_trans (Nat.le_add_right n _) (ih _)
    have := h (0 + a.length) es
    simp only [joinSize, List.foldl_cons]
    omega
  have h₀ : joinStep [] a = a := by simp [joinStep, ha]
  rw [join, if_neg hs, joinBuf, List.foldl_cons, h₀, foldl_joinStep ha]

/-- 根から名前をたどる `Join` は、根の `'/'` に続けて名前をつなぎ、`Clean` したものである。 -/
theorem join_root (q : List GoString) :
    join ([slash] :: q) = clean (slash :: (q.map (slash :: ·)).flatten) :=
  join_cons (List.cons_ne_nil _ _) q

theorem join_root_head (q : List GoString) : (join ([slash] :: q)).head? = some slash := by
  rw [join_root, @clean_rooted (slash :: _) rfl]; rfl

/-- 根から名前をたどる `Join` は、一つ上の `Join` に名前をつなぐ `Join` と等しい。 -/
theorem join_root_snoc (q : List GoString) (name : GoString) :
    join [join ([slash] :: q), name] = join ([slash] :: (q ++ [name])) := by
  have hne : join ([slash] :: q) ≠ [] := fun h => by simpa [h] using join_root_head q
  rw [join_cons hne, join_root, join_root]
  simp only [List.map_cons, List.map_nil, List.flatten_cons, List.flatten_nil, List.append_nil,
    List.map_append, List.flatten_append]
  rw [@clean_clean_append (slash :: _) rfl, List.cons_append]

/-! ## `Proper` な名前をたどる路の `Dir` と `Base`

名前が全て `Proper` なら、根からの `Join` は名前を `'/'` で区切って並べたものになり、その `path.Dir` は
親の場所、`path.Base` は最後の名前である。
-/

theorem splitSlash_append_flatten {e : GoString} {q : List GoString} (he : slash ∉ e)
    (h : ∀ x ∈ q, slash ∉ x) : splitSlash (e ++ (q.map (slash :: ·)).flatten) = e :: q := by
  induction q generalizing e with
  | nil => simpa using splitSlash_of_not_mem he
  | cons e' q ih =>
    simp only [List.map_cons, List.flatten_cons, List.cons_append]
    rw [splitSlash_append, splitSlash_of_not_mem he,
      ih (h e' (List.mem_cons_self _ _)) (fun x hx => h x (List.mem_cons_of_mem _ hx))]
    rfl

/-- 名前が全て `Proper` なら、根からの `Join` は `'/'` に続けて名前を `'/'` で区切って並べたものである。 -/
theorem join_root_proper {q : List GoString} (h : ∀ e ∈ q, Proper e) :
    join ([slash] :: q) = slash :: List.intercalate [slash] q := by
  have hs : splitSlash (slash :: (q.map (slash :: ·)).flatten) = [] :: [] :: q :=
    splitSlash_append_flatten (e := []) (q := [] :: q) (List.not_mem_nil _)
      (by simpa using fun x hx => (h x hx).2.2.2)
  rw [join_root, @clean_rooted (slash :: _) rfl, rootedStack, hs, List.foldl_cons, List.foldl_cons,
    foldl_cleanStep_proper _ h]
  simp [cleanStep]

/-- 名前が全て `Proper` なら、根からの `Join` は名前の列を決める。違う場所は違う路になる。 -/
theorem join_root_injective {q q' : List GoString} (h : ∀ e ∈ q, Proper e) (h' : ∀ e ∈ q', Proper e)
    (he : join ([slash] :: q) = join ([slash] :: q')) : q = q' := by
  have split : ∀ {q : List GoString}, (∀ e ∈ q, Proper e) →
      splitSlash (List.intercalate [slash] q) = if q = [] then [[]] else q := fun {q} h => by
    split_ifs with hq
    · subst hq; rfl
    · exact splitSlash_intercalate hq fun e he => (h e he).2.2.2
  rw [join_root_proper h, join_root_proper h'] at he
  have hs := congrArg splitSlash (List.cons.inj he).2
  rw [split h, split h'] at hs
  split_ifs at hs with hq hq'
  · rw [hq, hq']
  · exact ((h' [] (hs ▸ List.mem_singleton_self _)).1 rfl).elim
  · exact ((h [] (hs ▸ List.mem_singleton_self _)).1 rfl).elim
  · exact hs

end Go9p
