import IntentBus.Bank.Intents

/-! The books of the bank: what the receipts of its customers, in the order in which they were served, say of the
ledger. -/

namespace IntentBus.Bank

/-- A request that was served, with the context in which it was made and the reply. -/
structure Receipt where
  request : Request
  context : ExecutionContext
  reply : Reply

namespace Receipt

def opening? : Receipt → Option (String × Int)
  | ⟨.open _ deposit, _, .account id⟩ => some (id, deposit.toInt)
  | _ => none

def taken (account : String) (receipt : Receipt) : Int :=
  match receipt.request with
  | .withdraw own amount => if own = account then amount.toInt else 0
  | _ => 0

end Receipt

def openings (receipts : List Receipt) : List (String × Int) := receipts.filterMap Receipt.opening?

def withdrawn (account : String) : List Receipt → Int
  | [] => 0
  | receipt :: rest => receipt.taken account + withdrawn account rest

def balance? (receipts : List Receipt) (account : String) : Option Int :=
  ((openings receipts).lookup account).map (· - withdrawn account receipts)

def limit (context : ExecutionContext) : Int :=
  ((context.properties.find? limitProperty).bind Json.int64?).getD standardLimit

/-- What a receipt may say after those before it. An account gets the next id; a withdrawal takes something, no more
than the balance, and no more than its context allows where this is asked for. -/
inductive Receipt.Follows (limited : Bool) (earlier : List Receipt) : Receipt → Prop
  | opened (holder : String) (deposit : Int64) (context : ExecutionContext) (covered : 0 ≤ deposit.toInt) :
    Follows limited earlier ⟨.open holder deposit, context, .account (Ledger.accountId ((openings earlier).length + 1))⟩
  | withdrawn (account : String) (amount rest : Int64) (context : ExecutionContext) (balance : Int)
    (has : balance? earlier account = some balance) (positive : 0 < amount.toInt) (covered : amount.toInt ≤ balance)
    (exact : rest.toInt = balance - amount.toInt) (allowed : limited = true → amount.toInt ≤ limit context) :
    Follows limited earlier ⟨.withdraw account amount, context, .amount rest⟩
  | told (account : String) (units : Int64) (context : ExecutionContext)
    (has : balance? earlier account = some units.toInt) :
    Follows limited earlier ⟨.balance account, context, .amount units⟩

/-- The ledger is what the receipts make of it: there are just the accounts that were opened, under their ids in order,
and no balance is overdrawn. -/
structure Books (limited : Bool) (ledger : Ledger) (receipts : List Receipt) : Prop where
  follows : ∀ earlier receipt later, receipts = earlier ++ receipt :: later → receipt.Follows limited earlier
  ids : (openings receipts).map Prod.fst = (List.range ledger.opened).map fun n => Ledger.accountId (n + 1)
  distinct : ((openings receipts).map Prod.fst).Nodup
  balances : ∀ account, (ledger.balances.find? account).map Int64.toInt = balance? receipts account
  untouched : ∀ account, (openings receipts).lookup account = none → withdrawn account receipts = 0
  nonNegative : ∀ account balance, ledger.balances.find? account = some balance → 0 ≤ balance.toInt

def Request.Sound : Request → Prop
  | .open _ deposit => 0 ≤ deposit.toInt
  | .withdraw _ amount => 0 < amount.toInt
  | .balance _ => True

def Request.Allowed (context : ExecutionContext) : Request → Prop
  | .withdraw _ amount => amount.toInt ≤ limit context
  | _ => True

section

variable {limited : Bool} {ledger : Ledger} {receipts : List Receipt}

private theorem accountId_injective {first second : Nat} (same : Ledger.accountId first = Ledger.accountId second) :
    first = second := by
  have digits : Nat.toDigits 10 first = Nat.toDigits 10 second := by
    simpa using congrArg String.toList ((String.append_right_inj "A").1 same)
  simpa using congrArg (Nat.ofDigitChars 10 · 0) digits

private theorem openings_concat (receipts : List Receipt) (receipt : Receipt) :
    openings (receipts ++ [receipt]) = openings receipts ++ receipt.opening?.toList := by
  unfold openings
  rw [List.filterMap_append]
  cases found : receipt.opening? <;> simp [found]

private theorem withdrawn_concat (account : String) (receipts : List Receipt) (receipt : Receipt) :
    withdrawn account (receipts ++ [receipt]) = withdrawn account receipts + receipt.taken account := by
  induction receipts with
  | nil => simp [withdrawn]
  | cons first rest ih =>
    simp only [List.cons_append, withdrawn, ih]
    omega

private theorem follows_concat {receipt : Receipt}
    (follows : ∀ earlier receipt later, receipts = earlier ++ receipt :: later → receipt.Follows limited earlier)
    (last : receipt.Follows limited receipts) : ∀ earlier own later,
      receipts ++ [receipt] = earlier ++ own :: later → own.Follows limited earlier := by
  intro earlier own later same
  rcases List.eq_nil_or_concat later with rfl | ⟨before, final, rfl⟩
  · obtain ⟨rfl, last⟩ := List.append_inj' same rfl
    cases last
    exact last
  · rw [List.concat_eq_append, ← List.cons_append, ← List.append_assoc] at same
    exact follows earlier own before (List.append_inj' same rfl).1

private theorem toInt_sub {balance amount : Int64} (positive : 0 ≤ amount.toInt) (covered : amount.toInt ≤ balance.toInt) :
    (balance - amount).toInt = balance.toInt - amount.toInt := by
  have most := balance.toInt_lt
  rw [Int64.toInt_sub]
  exact Int.bmod_eq_of_le (by omega) (by omega)

private theorem distinct_of_ids {opened : Nat} {ids : List String}
    (inOrder : ids = (List.range opened).map fun n => Ledger.accountId (n + 1)) : ids.Nodup := by
  rw [inOrder]
  refine List.Pairwise.map _ (fun first second different same => different ?_) List.nodup_range
  exact Nat.succ.inj (accountId_injective same)

/-- The books of a bank without receipts are in order. -/
theorem books_empty (limited : Bool) : Books limited .empty [] where
  follows earlier receipt later same := by
    nomatch List.append_ne_nil_of_right_ne_nil earlier (List.cons_ne_nil receipt later) same.symm
  ids := rfl
  distinct := .nil
  balances _ := rfl
  untouched _ _ := rfl
  nonNegative _ _ found := nomatch found

private theorem Books.length_openings (books : Books limited ledger receipts) :
    (openings receipts).length = ledger.opened := by
  have lengths := congrArg List.length books.ids
  rwa [List.length_map, List.length_map, List.length_range] at lengths

private theorem Books.fresh (books : Books limited ledger receipts) :
    (openings receipts).lookup (Ledger.accountId (ledger.opened + 1)) = none := by
  refine List.lookup_eq_none_iff.2 fun opening mem => bne_iff_ne.2 fun same => ?_
  have known : opening.1 ∈ (openings receipts).map Prod.fst := List.mem_map_of_mem mem
  rw [books.ids, ← same] at known
  obtain ⟨n, less, again⟩ := List.mem_map.1 known
  have next := Nat.succ.inj (accountId_injective again)
  exact Nat.ne_of_lt (List.mem_range.1 less) next

private theorem books_open (books : Books limited ledger receipts) (holder : String) {deposit : Int64}
    (covered : 0 ≤ deposit.toInt) (context : ExecutionContext) :
    let id := Ledger.accountId (ledger.opened + 1)
    Books limited ⟨ledger.opened + 1, ledger.balances.insert id deposit⟩
      (receipts ++ [⟨.open holder deposit, context, .account id⟩]) := by
  intro id
  let receipt : Receipt := ⟨.open holder deposit, context, .account id⟩
  have opened : openings (receipts ++ [receipt]) = openings receipts ++ [(id, deposit.toInt)] := openings_concat _ _
  have taken (account : String) : withdrawn account (receipts ++ [receipt]) = withdrawn account receipts :=
    (withdrawn_concat account receipts receipt).trans (Int.add_zero _)
  have found (account : String) : (openings (receipts ++ [receipt])).lookup account =
      ((openings receipts).lookup account).or (if account = id then some deposit.toInt else none) := by
    rw [opened, List.lookup_append]
    by_cases own : account = id <;> simp [own, List.lookup_cons, beq_eq_false_iff_ne.2]
  have ids : (openings (receipts ++ [receipt])).map Prod.fst =
      (List.range (ledger.opened + 1)).map fun n => Ledger.accountId (n + 1) := by
    rw [opened, List.map_append, books.ids, List.range_succ, List.map_append]
    rfl
  refine ⟨?_, ids, distinct_of_ids ids, fun account => ?_, fun account unopened => ?_, fun account balance has => ?_⟩
  · have next := @Receipt.Follows.opened limited receipts holder deposit context covered
    rw [books.length_openings] at next
    exact follows_concat books.follows next
  · rw [balance?, found, taken]
    refine (congrArg (Option.map Int64.toInt) (ledger.balances.find?_insert id account deposit)).trans ?_
    by_cases own : account = id
    · rw [if_pos own, if_pos own, own, books.fresh, books.untouched id books.fresh]
      exact congrArg some (Int.sub_zero _).symm
    · rw [if_neg own, if_neg own, Option.or_none]
      exact books.balances account
  · rw [found, Option.or_eq_none_iff] at unopened
    rw [taken]
    exact books.untouched account unopened.1
  · have held := (ledger.balances.find?_insert id account deposit).symm.trans has
    split at held
    · cases held
      exact covered
    · exact books.nonNegative account balance held

private theorem books_withdraw (books : Books limited ledger receipts) {account : String} {amount balance : Int64}
    (has : ledger.balances.find? account = some balance) (positive : 0 < amount.toInt)
    (enough : amount ≤ balance) {context : ExecutionContext} (allowed : limited = true → amount.toInt ≤ limit context) :
    Books limited { ledger with balances := ledger.balances.insert account (balance - amount) }
      (receipts ++ [⟨.withdraw account amount, context, .amount (balance - amount)⟩]) := by
  let receipt : Receipt := ⟨.withdraw account amount, context, .amount (balance - amount)⟩
  have covered : amount.toInt ≤ balance.toInt := Int64.le_iff_toInt_le.1 enough
  have exact' : (balance - amount).toInt = balance.toInt - amount.toInt := toInt_sub (Int.le_of_lt positive) covered
  have opened : openings (receipts ++ [receipt]) = openings receipts :=
    (openings_concat _ _).trans (List.append_nil _)
  have taken (other : String) : withdrawn other (receipts ++ [receipt]) =
      withdrawn other receipts + if account = other then amount.toInt else 0 := withdrawn_concat other receipts receipt
  have known : balance? receipts account = some balance.toInt := by rw [← books.balances, has, Option.map_some]
  refine ⟨?_, ?_, ?_, fun other => ?_, fun other unopened => ?_, fun other left held => ?_⟩
  · exact follows_concat books.follows (.withdrawn account amount _ context _ known positive covered exact' allowed)
  · rw [opened]
    exact books.ids
  · rw [opened]
    exact books.distinct
  · rw [balance?, opened, taken]
    refine (congrArg (Option.map Int64.toInt) (ledger.balances.find?_insert account other _)).trans ?_
    by_cases own : other = account
    · subst own
      obtain ⟨deposit, opening, left⟩ := Option.map_eq_some_iff.1 known
      rw [if_pos rfl, if_pos rfl, opening, Option.map_some, Option.map_some, exact', ← left]
      exact congrArg some (by omega)
    · rw [if_neg own, if_neg (Ne.symm own), Int.add_zero]
      exact books.balances other
  · rw [opened] at unopened
    have elsewhere : account ≠ other := by
      rintro rfl
      rw [balance?, unopened] at known
      nomatch known
    rw [taken, if_neg elsewhere, Int.add_zero]
    exact books.untouched other unopened
  · have kept := (ledger.balances.find?_insert account other _).symm.trans held
    split at kept
    · cases kept
      rw [exact']
      omega
    · exact books.nonNegative other left kept

private theorem books_balance (books : Books limited ledger receipts) {account : String} {units : Int64}
    (has : ledger.balances.find? account = some units) (context : ExecutionContext) :
    Books limited ledger (receipts ++ [⟨.balance account, context, .amount units⟩]) := by
  have opened : openings (receipts ++ [⟨.balance account, context, .amount units⟩]) = openings receipts :=
    (openings_concat _ _).trans (List.append_nil _)
  have taken (other : String) :
      withdrawn other (receipts ++ [⟨.balance account, context, .amount units⟩]) = withdrawn other receipts :=
    (withdrawn_concat _ _ _).trans (Int.add_zero _)
  have known : balance? receipts account = some units.toInt := by rw [← books.balances, has, Option.map_some]
  refine ⟨follows_concat books.follows (.told account units context known), ?_, ?_, fun other => ?_, fun other => ?_,
    books.nonNegative⟩
  · rw [opened]
    exact books.ids
  · rw [opened]
    exact books.distinct
  · rw [balance?, opened, taken]
    exact books.balances other
  · rw [opened, taken]
    exact books.untouched other

/-- The receipt for a request that was served keeps the books in order. -/
theorem books_serve (books : Books limited ledger receipts) {request : Request} {context : ExecutionContext}
    {reply : Reply} {next : Ledger} (sound : request.Sound) (allowed : limited = true → request.Allowed context)
    (served : ledger.serve request = (.ok reply, next)) :
    Books limited next (receipts ++ [⟨request, context, reply⟩]) := by
  cases request with
  | «open» holder deposit =>
    cases served
    exact books_open books holder sound context
  | withdraw account amount =>
    cases has : ledger.balances.find? account with
    | none => simp [Ledger.serve, Ledger.withdraw, has] at served
    | some balance =>
      by_cases enough : amount ≤ balance
      · simp only [Ledger.serve, Ledger.withdraw, has, if_pos enough] at served
        cases served
        exact books_withdraw books has sound enough allowed
      · simp [Ledger.serve, Ledger.withdraw, has, enough] at served
  | balance account =>
    cases has : ledger.balances.find? account with
    | none => simp [Ledger.serve, Ledger.balance, has, Except.map] at served
    | some units =>
      simp only [Ledger.serve, Ledger.balance, has, Except.map] at served
      cases served
      exact books_balance books has context

end

end IntentBus.Bank
