import TenantAuth.Proofs.LoginWrites

/-!
# Stronger hashes on login

A right password brings its stored hash up to the configured bcrypt cost `r`: the write of the login
keeps a hash that already costs at least `r`, and otherwise stores a fresh hash of the password at
cost `r` that is well-formed and accepts the password (`Password.Upgrade`, `Password.FreshHash`).
The new hash lands only with the write itself, so a row met locked or a store that cannot be written
keeps the stored hash (`Authenticator.HashUpgrade`).
-/

namespace TenantAuth

namespace Text

open String in
theorem splitOnAux_singleton (c : Char) (l m r : List Char) (acc : List String) :
    String.splitOnAux (ofList (l ++ m ++ r)) (ofList [c]) ⟨utf8Len l⟩ ⟨utf8Len l + utf8Len m⟩ 0
      acc = acc.reverse ++ (List.splitOnPPrepend (· == c) r m.reverse).map ofList := by
  induction r generalizing l m acc with
  | nil =>
    unfold String.splitOnAux
    simp only [List.append_nil, atEnd_iff, rawEndPos_ofList, utf8Len_append, List.reverse_cons,
      List.splitOnPPrepend_nil, List.reverse_reverse]
    simpa using extract_of_valid l m []
  | cons d r ih =>
    have sepGet : Pos.Raw.get (ofList [c]) 0 = c := by
      simpa using get_of_valid [] [c]
    have sepNext : Pos.Raw.next (ofList [c]) 0 = ⟨c.utf8Size⟩ := by
      simpa using next_of_valid [] c []
    have facts := (⟨get_of_valid (l ++ m) (d :: r), next_of_valid (l ++ m) d r,
      extract_of_valid l m (d :: r)⟩ : _ ∧ _ ∧ _)
    simp only [List.append_assoc, utf8Len_append, List.headD_cons] at facts
    have inside : ¬ utf8Len l + (utf8Len m + (utf8Len r + d.utf8Size)) ≤ utf8Len l + utf8Len m := by
      have := d.utf8Size_pos
      omega
    unfold String.splitOnAux
    simp only [List.append_assoc, atEnd_iff, rawEndPos_ofList, utf8Len_append, utf8Len_cons,
      utf8Len_nil, Pos.Raw.mk_le_mk, facts.1, facts.2.1, sepGet, sepNext, inside, if_false,
      Nat.zero_add, le_refl, if_true, Pos.Raw.unoffsetBy_zero]
    by_cases same : d = c
    · -- the separator closes the part begun at `m`, and a new part begins after it
      subst same
      have back : (⟨utf8Len l + utf8Len m + d.utf8Size⟩ : Pos.Raw).unoffsetBy ⟨d.utf8Size⟩ =
          ⟨utf8Len l + utf8Len m⟩ := by
        simp [Pos.Raw.unoffsetBy]
      simp only [beq_self_eq_true, if_true, back, facts.2.2]
      simpa [List.splitOnPPrepend_cons_eq_if, Nat.add_assoc] using
        ih (l ++ m ++ [d]) [] (ofList m :: acc)
    · simp only [beq_eq_false_iff_ne.mpr same, Bool.false_eq_true, if_false]
      simpa [List.splitOnPPrepend_cons_eq_if, same, Nat.add_assoc] using ih l (m ++ [d]) acc

/-- Splitting a text on a one-character separator splits its characters. -/
theorem splitOn_singleton (s : String) (c : Char) :
    s.splitOn (String.ofList [c]) = (s.toList.splitOnP (· == c)).map String.ofList := by
  have nonempty : (String.ofList [c] == "") = false := by
    simp
  have whole := splitOnAux_singleton c [] [] s.toList []
  simp only [List.nil_append, String.utf8Len_nil, Nat.add_zero, String.ofList_toList,
    List.reverse_nil] at whole
  rw [String.splitOn, nonempty]
  exact whole

/-- Parts joined by a character none of them holds are split apart again on it. -/
theorem splitOn_intercalate {c : Char} {parts : List (List Char)}
    (apart : ∀ part ∈ parts, c ∉ part) (nonempty : parts ≠ []) :
    (String.ofList ([c].intercalate parts)).splitOn (String.ofList [c]) =
      parts.map String.ofList := by
  rw [splitOn_singleton, String.toList_ofList]
  exact congrArg _ (List.splitOn_intercalate c apart nonempty)

end Text

namespace Sha2

theorem length_bigEndian (width n : Nat) : (bigEndian width n).length = width := by
  simp [bigEndian]

theorem size_foldl_compress32 (bs : Array UInt8) (blocks : List Nat) {h : Array UInt32}
    (sized : h.size = 8) : (blocks.foldl (fun h i => compress32 h bs (64 * i)) h).size = 8 := by
  induction blocks generalizing h with
  | nil => exact sized
  | cons i rest ih => exact ih (by simp [compress32])

theorem length_sha256 (msg : List UInt8) : (sha256 msg).length = 32 := by
  have sized := size_foldl_compress32 (pad 64 8 msg) (List.range (blockCount 64 (pad 64 8 msg)))
    (h := initial256) rfl
  simp only [sha256, List.length_flatMap, length_bigEndian]
  rw [List.map_const', List.sum_replicate, Array.length_toList, sized]
  rfl

end Sha2

namespace Bcrypt

theorem readInt_costText : ∀ c, c < 32 → 4 ≤ c → Numeral.readInt (costText c) = .ok (c : Int) := by
  decide

theorem roundsOf_format (v : Version) {c : Nat} (valid : validCost c = true) (salt d : List UInt8) :
    Password.roundsOf (format v c salt d) = c := by
  have bounded : c < 32 ∧ 4 ≤ c := by simp [validCost] at valid; omega
  have tag : ∀ x ∈ v.tag.toList, (x == '$') = false := by
    cases v <;> simp [Version.tag]
  have digits : ∀ x ∈ (costText c).toList, (x == '$') = false := by
    -- both characters of the cost are digits, and no digit is a `$`
    have notDollar : ∀ k, k < 10 → (Char.ofNat (48 + k) == '$') = false := by decide
    rw [toList_costText valid]
    simp only [List.mem_cons, List.not_mem_nil, or_false, forall_eq_or_imp, forall_eq]
    exact ⟨notDollar _ (by omega), notDollar _ (by omega)⟩
  -- the cost is the third field, after the empty one before the first `$` and the version
  have spelled : (format v c salt d).toList = [] ++ '$' :: (v.tag.toList ++ '$' ::
      ((costText c).toList ++ '$' :: ((encode salt).toList ++ (encode d).toList))) := by
    simp [toList_format]
  have fields : ((format v c salt d).toList.splitOnP (· == '$'))[2]? = some (costText c).toList := by
    rw [spelled, List.splitOnP_append_cons_of_forall_mem (by simp) '$' (by decide),
      List.splitOnP_append_cons_of_forall_mem tag '$' (by decide),
      List.splitOnP_append_cons_of_forall_mem digits '$' (by decide)]
    rfl
  rw [Password.roundsOf, show ("$" : String) = String.ofList ['$'] from rfl, Text.splitOn_singleton,
    List.getElem?_map, fields, Option.map_some, String.ofList_toList]
  simp only [readInt_costText c bounded.1 bounded.2]

end Bcrypt

namespace Password

open Bcrypt

/-- A hash freshly made for a password at a cost: written in version `2b`, 60 characters long,
well-formed, recording that cost, and accepting the password. -/
structure FreshHash (password : String) (cost : Int) (h : String) : Prop where
  /-- It starts with the version `2b`. -/
  prefixed : h.startsWith "$2b$" = true
  /-- It has 60 characters. -/
  length : h.length = 60
  /-- It is a well-formed stored hash. -/
  valid : isValid (.str h) = true
  /-- Its cost field is the cost. -/
  rounds : roundsOf h = cost
  /-- It accepts the password. -/
  accepts : verify (.str password) (.str h) = .ok true

theorem hash_fresh {password h : String} (matched : verify (.str password) (.str h) = .ok true)
    (salt : Vector UInt8 16) {r : Int} (low : 4 ≤ r) (high : r ≤ 31) :
    ∃ fresh, hash salt (.str password) (.int r) = .ok fresh ∧ FreshHash password r fresh := by
  obtain ⟨bytes, encoded, short⟩ := bytes_of_verify matched
  have fits : ¬ bytes.length > maxBytes := by omega
  have valid : validCost r.toNat = true := by
    simp only [validCost, Bool.and_eq_true, decide_eq_true_eq]
    omega
  have salted : salt.toList.length = 16 := by simp
  refine ⟨Bcrypt.hash .b r.toNat salt.toList bytes,
    by simp [hash, costOf_int low high, encoded, fits, bind, Except.bind, pure, Except.pure], ?_⟩
  exact {
    prefixed := prefix_format .b _ _ _
    length := length_format .b valid salted (length_digest _ _ _)
    valid := isValid_hash .b valid salted bytes
    rounds := by rw [Bcrypt.hash, roundsOf_format .b valid]; omega
    accepts := verify_hash encoded short .b valid salted }

/-- What the write of a right password stores as the hash, for a stored hash `h` and the
configured cost `r`: nothing new while `h` costs at least `r`, else a fresh hash of the
password at cost `r`. -/
def Upgrade (password : String) (r : Int) (h : String) : Option String → Prop
  | none => r ≤ roundsOf h
  | some fresh => roundsOf h < r ∧ FreshHash password r fresh

end Password

namespace Account

open Password

theorem passwordHash_afterSuccess_none (a : Account) (now : Int) :
    (a.afterSuccess now none).passwordHash = a.passwordHash := rfl

theorem passwordHash_afterSuccess_fresh (a : Account) (now : Int) {p fresh : String} {r : Int}
    (made : FreshHash p r fresh) : (a.afterSuccess now (some fresh)).passwordHash = fresh := by
  have filled : fresh.isEmpty = false := by
    rw [Bool.eq_false_iff]
    intro empty
    have sixty := made.length
    rw [String.isEmpty_iff.mp empty] at sixty
    simp at sixty
  simp [afterSuccess, filled]

theorem passwordHash_afterSuccess {p h : String} {r : Int} {newHash : Option String}
    (upgrade : Upgrade p r h newHash) (a : Account) (now : Int) :
    (r ≤ roundsOf h → (a.afterSuccess now newHash).passwordHash = a.passwordHash) ∧
      (roundsOf h < r → FreshHash p r (a.afterSuccess now newHash).passwordHash) := by
  cases newHash with
  | none =>
    refine ⟨fun _ => passwordHash_afterSuccess_none a now, fun cheaper => ?_⟩
    exact absurd upgrade (by simp only [Upgrade]; omega)
  | some fresh =>
    refine ⟨fun reaches => absurd upgrade.1 (by omega), fun _ => ?_⟩
    rw [passwordHash_afterSuccess_fresh a now upgrade.2]
    exact upgrade.2

end Account

namespace Authenticator

open Account CredentialStore Password

variable (auth : Authenticator) {rs : List Account} {a : Account}

theorem accept_eq {r : Int} (rounds : auth.bcryptRounds = .int r) (low : 4 ≤ r) (high : r ≤ 31)
    {user : Account} {p : String}
    (matched : verify (.str p) (.str user.passwordHash) = .ok true) (now : Int) :
    ∃ newHash, Upgrade p r user.passwordHash newHash ∧
      (∀ users users', users.recordSuccess user.id now newHash = .ok (true, users') →
        auth.accept users user (.str p) now = (users', .ok ())) ∧
      (∀ users users', users.recordSuccess user.id now newHash = .ok (false, users') →
        auth.accept users user (.str p) now = (users', .error (.rejected .accountLocked))) ∧
      (∀ users f, users.recordSuccess user.id now newHash = .error f →
        auth.accept users user (.str p) now = (users, if f.isStore then .ok () else .error f)) := by
  obtain ⟨fresh, hashed, made⟩ := hash_fresh matched auth.salt low high
  by_cases cheaper : roundsOf user.passwordHash < r
  · refine ⟨some fresh, ⟨cheaper, made⟩, ?_, ?_, ?_⟩ <;> intro users _ written <;>
      simp only [accept, rounds, needsRehash, hashRounds, cheaper, decide_true, hashed, bind,
        Except.bind, pure, Except.pure, if_true, written]
    split <;> rfl
  · refine ⟨none, by simp only [Upgrade]; omega, ?_, ?_, ?_⟩ <;> intro users _ written <;>
      simp only [accept, rounds, needsRehash, hashRounds, cheaper, decide_false, bind, Except.bind,
        pure, Except.pure, Bool.false_eq_true, if_false, written]
    split <;> rfl

theorem accept_store (keyed : Keyed rs) {cur : Account} (member : cur ∈ rs) (row : a.id = cur.id)
    {r : Int} (rounds : auth.bcryptRounds = .int r) (low : 4 ≤ r) (high : r ≤ 31) {p : String}
    (matched : verify (.str p) (.str a.passwordHash) = .ok true) (now : Int) :
    ∃ newHash, Upgrade p r a.passwordHash newHash ∧
      (auth.accept ⟨some rs⟩ a (.str p) now).1 =
        if cur.isLocked then ⟨some rs⟩ else ⟨some (replaceRow rs (cur.afterSuccess now newHash))⟩ := by
  obtain ⟨newHash, upgrade, applied, refused, -⟩ := accept_eq auth rounds low high matched now
  have written := recordSuccess_eq keyed member now newHash
  rw [← row] at written
  refine ⟨newHash, upgrade, ?_⟩
  cases locked : cur.isLocked
  · simp only [locked, Bool.false_eq_true, if_false] at written ⊢
    rw [applied _ _ written]
  · simp only [locked, if_true] at written ⊢
    rw [refused _ _ written]

theorem accept_unavailable {r : Int} (rounds : auth.bcryptRounds = .int r) (low : 4 ≤ r)
    (high : r ≤ 31) {p : String} (matched : verify (.str p) (.str a.passwordHash) = .ok true)
    (now : Int) : auth.accept ⟨none⟩ a (.str p) now = (⟨none⟩, .ok ()) := by
  obtain ⟨newHash, -, -, -, failed⟩ := accept_eq auth rounds low high matched now
  rw [failed ⟨none⟩ .storeUnavailable rfl]
  rfl

theorem login_fst_of_match {tenantId : Datum} {username : String}
    (found : find? ⟨some rs⟩ tenantId username = .ok (some a)) (active : a.isActive = true)
    (unlocked : a.isLocked = false) {p : String}
    (matched : verify (.str p) (.str a.passwordHash) = .ok true) (now : Int) :
    (auth.login ⟨some rs⟩ tenantId username (.str p) now).1 =
      (auth.accept ⟨some rs⟩ a (.str p) now).1 := by
  simp only [login, found, active, unlocked, matched, Bool.not_true, Bool.false_eq_true, if_false]
  split <;> rename_i accepted <;> rw [accepted]

theorem writeStage_fst_of_match (users : CredentialStore) {p : String}
    (matched : verify (.str p) (.str a.passwordHash) = .ok true) (now : Int) :
    (auth.writeStage users a (.str p) now).1 = (auth.accept users a (.str p) now).1 := by
  simp only [writeStage, matched]
  split <;> rename_i accepted <;> rw [accepted]

/-- What the write of a right password leaves stored, for a login whose lookup in tenant `t` by
login name `u` found the account `a` in the table `rs`, with a stored hash that accepts the
password `p`, under the bcrypt cost `r`. -/
structure HashUpgrade (rs : List Account) (t u p : String) (now r : Int) (a : Account) : Prop where
  /-- Right after the lookup the write lands: the hash found stays while it costs at least `r`,
  else a fresh hash of cost `r` takes its place; either way the password still logs in and
  the cost has not gone down. -/
  login : ∃ b, (auth.login ⟨some rs⟩ (.str t) u (.str p) now).1 = ⟨some (replaceRow rs b)⟩ ∧
    SuccessFrame a b ∧ verify (.str p) (.str b.passwordHash) = .ok true ∧
    roundsOf a.passwordHash ≤ roundsOf b.passwordHash ∧
    (r ≤ roundsOf a.passwordHash → b.passwordHash = a.passwordHash) ∧
    (roundsOf a.passwordHash < r → FreshHash p r b.passwordHash)
  /-- A write that meets the row unlocked as `cur`, after attempts running alongside, lands on
  it: `cur` keeps its hash while the hash found costs at least `r`, else takes a fresh one. -/
  applied : ∀ cur, SameIdentity a cur → cur.isLocked = false →
    ∃ b, (auth.writeStage ⟨some (replaceRow rs cur)⟩ a (.str p) now).1 =
        ⟨some (replaceRow rs b)⟩ ∧ SuccessFrame cur b ∧
      (r ≤ roundsOf a.passwordHash → b.passwordHash = cur.passwordHash) ∧
      (roundsOf a.passwordHash < r → FreshHash p r b.passwordHash)
  /-- A write that meets the row locked is refused and changes nothing. -/
  refused : ∀ cur, SameIdentity a cur → cur.isLocked = true →
    (auth.writeStage ⟨some (replaceRow rs cur)⟩ a (.str p) now).1 = ⟨some (replaceRow rs cur)⟩
  /-- A write to a store that cannot be written fails and changes nothing. -/
  failing : (auth.writeStage ⟨none⟩ a (.str p) now).1 = ⟨none⟩

/-- Every login that finds an active, unlocked account accepting the password stores by
`HashUpgrade`. -/
theorem hash_upgrade (keyed : Keyed rs) {t u : String}
    (found : find? ⟨some rs⟩ (.str t) u = .ok (some a)) (active : a.isActive = true)
    (unlocked : a.isLocked = false) {r : Int} (rounds : auth.bcryptRounds = .int r) (low : 4 ≤ r)
    (high : r ≤ 31) {p : String} (matched : verify (.str p) (.str a.passwordHash) = .ok true)
    (now : Int) : auth.HashUpgrade rs t u p now r a where
  login := by
    -- the write of the login itself meets the row as the lookup read it
    obtain ⟨newHash, upgrade, stored⟩ :=
      accept_store auth keyed (mem_of_find? found) rfl rounds low high matched now
    obtain ⟨keep, fresh⟩ := passwordHash_afterSuccess upgrade a now
    refine ⟨a.afterSuccess now newHash, ?_, successFrame_afterSuccess a now newHash, ?_, ?_, keep,
      fresh⟩
    · rw [login_fst_of_match auth found active unlocked matched, stored, unlocked]
      rfl
    · by_cases cheaper : roundsOf a.passwordHash < r
      · exact (fresh cheaper).accepts
      · rw [keep (by omega)]
        exact matched
    · by_cases cheaper : roundsOf a.passwordHash < r
      · rw [(fresh cheaper).rounds]
        omega
      · rw [keep (by omega)]
  applied cur same unlockedNow := by
    have member := mem_of_find? found
    obtain ⟨newHash, upgrade, stored⟩ := accept_store auth (keyed_replaceRow keyed member same)
      (mem_replaceRow member same) same.id.symm rounds low high matched now
    obtain ⟨keep, fresh⟩ := passwordHash_afterSuccess upgrade cur now
    refine ⟨cur.afterSuccess now newHash, ?_, successFrame_afterSuccess cur now newHash, keep,
      fresh⟩
    rw [writeStage_fst_of_match auth _ matched, stored, unlockedNow, if_neg Bool.false_ne_true,
      replaceRow_replaceRow rs (show (cur.afterSuccess now newHash).id = cur.id from rfl)]
  refused cur same locked := by
    have member := mem_of_find? found
    obtain ⟨newHash, -, stored⟩ := accept_store auth (keyed_replaceRow keyed member same)
      (mem_replaceRow member same) same.id.symm rounds low high matched now
    rw [writeStage_fst_of_match auth _ matched, stored, locked, if_pos rfl]
  failing := by
    rw [writeStage_fst_of_match auth _ matched, accept_unavailable auth rounds low high matched now]

/-- A login brings the cost-4 hash of `demoClinician` up to cost 12. -/
theorem hash_upgrade_clinician :
    let auth : Authenticator :=
      { tenants := ⟨some [], [], ""⟩, tokens := ⟨"s3cret-key", "HS256", .inl 30⟩,
        bcryptRounds := .int 12 }
    Keyed [demoClinician] ∧
      find? ⟨some [demoClinician]⟩ (.str "demo") "s.johnson" = .ok (some demoClinician) ∧
      demoClinician.isActive = true ∧ demoClinician.isLocked = false ∧
      auth.bcryptRounds = .int 12 ∧ (4 : Int) ≤ 12 ∧ (12 : Int) ≤ 31 ∧
      verify (.str "pw-123456") (.str demoClinician.passwordHash) = .ok true ∧
      auth.HashUpgrade [demoClinician] "demo" "s.johnson" "pw-123456" 1 12 demoClinician := by
  intro auth
  have keyed : Keyed [demoClinician] := List.pairwise_singleton _ _
  exact ⟨keyed, find?_demoClinician, rfl, rfl, rfl, by decide, by decide, verify_demoClinician,
    hash_upgrade auth keyed find?_demoClinician rfl rfl rfl (by decide) (by decide)
      verify_demoClinician 1⟩

end Authenticator

end TenantAuth
