import WalletManager.Storage.Memstore

/-!
# Keys of the store

The maps of the memory store are keyed by texts that join an identifier with other parts.
Identifiers have texts of one length, so such a key determines its parts.
-/

namespace WalletManager.Proofs

lemma hexDigit_inj : ∀ a b : Fin 16, hexDigit a = hexDigit b → a = b := by decide

lemma hexDigit_ne_dash : ∀ a : Fin 16, hexDigit a ≠ '-' := by decide

lemma hexByte_inj {a b : UInt8} (h : hexByte a = hexByte b) : a = b := by
  have ha := a.toNat_lt
  have hb := b.toNat_lt
  simp only [hexByte, List.cons.injEq, and_true] at h
  have hhi := hexDigit_inj ⟨a.toNat / 16, by omega⟩ ⟨b.toNat / 16, by omega⟩ h.1
  have hlo := hexDigit_inj ⟨a.toNat % 16, by omega⟩ ⟨b.toNat % 16, by omega⟩ h.2
  simp only [Fin.mk.injEq] at hhi hlo
  apply UInt8.toNat_inj.mp
  omega

lemma flatMap_hexByte_inj {l l' : Bytes} (h : l.flatMap hexByte = l'.flatMap hexByte) : l = l' := by
  induction l generalizing l' with
  | nil =>
    cases l' with
    | nil => rfl
    | cons b l' => simp [hexByte] at h
  | cons a l ih =>
    cases l' with
    | nil => simp [hexByte] at h
    | cons b l' =>
      rw [List.flatMap_cons, List.flatMap_cons] at h
      obtain ⟨hab, hl⟩ := List.append_inj h rfl
      rw [hexByte_inj hab, ih hl]

lemma flatMap_hexByte_ne_dash (l : Bytes) : ∀ c ∈ l.flatMap hexByte, c ≠ '-' := by
  intro c hc
  obtain ⟨b, -, hb⟩ := List.mem_flatMap.mp hc
  have hlt := b.toNat_lt
  simp only [hexByte, List.mem_cons, List.not_mem_nil, or_false] at hb
  rcases hb with rfl | rfl
  · exact hexDigit_ne_dash ⟨b.toNat / 16, by omega⟩
  · exact hexDigit_ne_dash ⟨b.toNat % 16, by omega⟩

lemma length_flatMap_hexByte (l : Bytes) : (l.flatMap hexByte).length = 2 * l.length := by
  induction l with
  | nil => rfl
  | cons b l ih =>
    rw [List.flatMap_cons, List.length_append, ih, List.length_cons]
    simp only [hexByte, List.length_cons, List.length_nil]
    omega

lemma uuid_string_length (u : UUID) : u.string.toList.length = 36 := by
  have hlen : (u.bytes.flatMap hexByte).length = 32 := by
    rw [length_flatMap_hexByte, u.length_eq]
  simp only [UUID.string, String.toList_ofList, List.length_append, List.length_cons, List.length_take,
    List.length_drop, hlen]
  omega

lemma uuid_string_digits (u : UUID) :
    u.string.toList.filter (fun c => c ≠ '-') = u.bytes.flatMap hexByte := by
  have hkeep : ∀ l : List Char, (∀ c ∈ l, c ∈ u.bytes.flatMap hexByte) →
      l.filter (fun c => c ≠ '-') = l := by
    intro l hl
    apply List.filter_eq_self.mpr
    intro c hc
    simpa using flatMap_hexByte_ne_dash _ c (hl c hc)
  generalize hh : u.bytes.flatMap hexByte = h at hkeep
  have hdrop : ∀ n, (h.drop n).take 4 ++ h.drop (n + 4) = h.drop n := by
    intro n
    rw [← List.drop_drop, List.take_append_drop]
  have htake : ∀ (n : Nat) (l : List Char), (∀ c ∈ l, c ∈ h) → (l.take n).filter (fun c => c ≠ '-') = l.take n :=
    fun n l hl => hkeep _ (fun c hc => hl c (List.mem_of_mem_take hc))
  have hmem : ∀ n, ∀ c ∈ h.drop n, c ∈ h := fun n c hc => List.mem_of_mem_drop hc
  have hdash : ∀ l : List Char, ('-' :: l).filter (fun c => c ≠ '-') = l.filter (fun c => c ≠ '-') :=
    fun l => List.filter_cons_of_neg (by simp)
  simp only [UUID.string, hh, String.toList_ofList, List.append_assoc, List.cons_append]
  rw [List.filter_append, hdash, List.filter_append, hdash, List.filter_append, hdash,
    List.filter_append, hdash, htake 8 h (fun c hc => hc), htake 4 _ (hmem 8), htake 4 _ (hmem 12),
    htake 4 _ (hmem 16), hkeep _ (hmem 20), hdrop 16, hdrop 12, hdrop 8, List.take_append_drop]

lemma uuid_string_inj {u v : UUID} (h : u.string = v.string) : u = v := by
  have hdigits := uuid_string_digits u
  rw [h, uuid_string_digits v] at hdigits
  cases u
  cases v
  simpa using (flatMap_hexByte_inj hdigits).symm

lemma key_inj {u v : UUID} {x y : String} (h : u.string ++ "|" ++ x = v.string ++ "|" ++ y) :
    u = v ∧ x = y := by
  have hlist := congrArg String.toList h
  simp only [String.toList_append, List.append_assoc] at hlist
  obtain ⟨hid, hrest⟩ := List.append_inj hlist (by rw [uuid_string_length u, uuid_string_length v])
  have hxy := (List.append_inj hrest rfl).2
  exact ⟨uuid_string_inj (String.toList_inj.mp hid), String.toList_inj.mp hxy⟩

lemma balanceKey_inj {walletID walletID' : UUID} {asset asset' : String}
    (h : balanceKey walletID asset = balanceKey walletID' asset') :
    walletID = walletID' ∧ asset = asset' := key_inj h

lemma append_sep_inj {sep : Char} {a b x y : List Char} (ha : sep ∉ a) (hb : sep ∉ b)
    (h : a ++ sep :: x = b ++ sep :: y) : a = b ∧ x = y := by
  induction a generalizing b with
  | nil =>
    cases b with
    | nil => exact ⟨rfl, (List.cons.inj h).2⟩
    | cons c b => exact absurd (by rw [(List.cons.inj h).1]; exact List.mem_cons_self) hb
  | cons c a ih =>
    cases b with
    | nil => exact absurd (by rw [← (List.cons.inj h).1]; exact List.mem_cons_self) ha
    | cons d b =>
      obtain ⟨rfl, hrest⟩ := List.cons.inj h
      obtain ⟨rfl, rfl⟩ := ih (fun hm => ha (List.mem_cons_of_mem _ hm))
        (fun hm => hb (List.mem_cons_of_mem _ hm)) hrest
      exact ⟨rfl, rfl⟩

lemma natRepr_toList (n : Nat) : n.repr.toList = Nat.toDigits 10 n := by
  rw [Nat.repr, String.toList_ofList]

lemma negRepr_toList (n : Nat) : (Int.negSucc n).repr.toList = '-' :: Nat.toDigits 10 (n + 1) := by
  simp [Int.repr]

lemma notMem_toDigits {c : Char} (hc : c.isDigit = false) (n : Nat) : c ∉ Nat.toDigits 10 n := by
  intro hmem
  rw [Nat.isDigit_of_mem_toDigits (by omega) (by omega) hmem] at hc
  cases hc

lemma notMem_repr {c : Char} (hc : c.isDigit = false) (hdash : c ≠ '-') (n : Int) : c ∉ n.repr.toList := by
  cases n with
  | ofNat m =>
    rw [show (Int.ofNat m).repr.toList = _ from natRepr_toList m]
    exact notMem_toDigits hc m
  | negSucc m =>
    rw [negRepr_toList, List.mem_cons, not_or]
    exact ⟨hdash, notMem_toDigits hc _⟩

lemma bar_notMem_repr (n : Int) : '|' ∉ n.repr.toList := notMem_repr (by decide) (by decide) n

lemma intRepr_inj {m n : Int} (h : m.repr = n.repr) : m = n := by
  have hdigits : ∀ {m n : Nat}, Nat.toDigits 10 m = Nat.toDigits 10 n → m = n := by
    intro m n h
    rw [← Nat.ofDigitChars_toDigits (b := 10) (n := m) (by omega) (by omega), h,
      Nat.ofDigitChars_toDigits (by omega) (by omega)]
  have hdash : ∀ {m n : Nat}, Nat.toDigits 10 m ≠ '-' :: Nat.toDigits 10 n := by
    intro m n h
    exact notMem_toDigits (c := '-') (by decide) m (by rw [h]; exact List.mem_cons_self)
  have hlist := congrArg String.toList h
  cases m with
  | ofNat m =>
    rw [show (Int.ofNat m).repr.toList = _ from natRepr_toList m] at hlist
    cases n with
    | ofNat n =>
      rw [show (Int.ofNat n).repr.toList = _ from natRepr_toList n] at hlist
      rw [hdigits hlist]
    | negSucc n =>
      rw [negRepr_toList] at hlist
      exact absurd hlist hdash
  | negSucc m =>
    rw [negRepr_toList] at hlist
    cases n with
    | ofNat n =>
      rw [show (Int.ofNat n).repr.toList = _ from natRepr_toList n] at hlist
      exact absurd hlist.symm hdash
    | negSucc n =>
      rw [negRepr_toList] at hlist
      have heq := hdigits (List.cons.inj hlist).2
      rw [show m = n by omega]

lemma eventKey_parts {e e' : BalanceEvent} (h : e.key = e'.key) : e.walletID = e'.walletID ∧
    e.asset.toList ++ '|' :: (e.blockHeight.repr.toList ++ '|' :: e.eventID.toList) =
      e'.asset.toList ++ '|' :: (e'.blockHeight.repr.toList ++ '|' :: e'.eventID.toList) := by
  have hparts : ∀ e : BalanceEvent, e.key = e.walletID.string ++ "|" ++
      (e.asset ++ "|" ++ e.blockHeight.repr ++ "|" ++ e.eventID) := by
    intro e
    simp only [BalanceEvent.key, String.append_assoc]
  rw [hparts e, hparts e'] at h
  obtain ⟨hwallet, hrest⟩ := key_inj h
  have hlist := congrArg String.toList hrest
  simp only [String.toList_append, List.append_assoc] at hlist
  exact ⟨hwallet, hlist⟩

lemma eventKey_inj_of_asset {e e' : BalanceEvent} (hasset : e.asset = e'.asset)
    (h : e.key = e'.key) : e = e' := by
  obtain ⟨hwallet, hlist⟩ := eventKey_parts h
  rw [hasset] at hlist
  have hrest := (List.cons.inj (List.append_cancel_left hlist)).2
  obtain ⟨hheight, hid⟩ := append_sep_inj (bar_notMem_repr _) (bar_notMem_repr _) hrest
  cases e
  cases e'
  simp only [BalanceEvent.mk.injEq]
  exact ⟨hwallet, hasset, intRepr_inj (String.toList_inj.mp hheight), String.toList_inj.mp hid⟩

lemma eventKey_inj {e e' : BalanceEvent} (hasset : '|' ∉ e.asset.toList)
    (hasset' : '|' ∉ e'.asset.toList) (h : e.key = e'.key) : e = e' := by
  have hassets := (append_sep_inj hasset hasset' (eventKey_parts h).2).1
  exact eventKey_inj_of_asset (String.toList_inj.mp hassets) h

lemma nonceKey_bitcoin_ne {walletID walletID' : UUID} {c : Chain} (hevm : c.isEVM) :
    nonceKey walletID Chain.bitcoin.string ≠ nonceKey walletID' c.string := by
  intro h
  have hchain := (key_inj h).2
  cases c <;> simp [Chain.isEVM, Chain.string] at hevm hchain

end WalletManager.Proofs
