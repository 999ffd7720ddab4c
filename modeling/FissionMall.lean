import FissionMall.Frame.Types
import FissionMall.Frame.Dispatch
import FissionMall.Frame.Index
import FissionMall.Frame.Lifecycle
import FissionMall.Frame.Ownership
import FissionMall.Frame.History
import FissionMall.C2COrder.Pallet
import FissionMall.C2COrder.Spec
import FissionMall.C2COrder.Invariant
import FissionMall.C2COrder.Lifecycle
import FissionMall.Order.Pallet
import FissionMall.Order.Spec
import FissionMall.Order.Invariant
import FissionMall.Order.Lifecycle
import FissionMall.Order.Totals
import FissionMall.Product.Pallet
import FissionMall.Product.Spec
import FissionMall.Product.Invariant
import FissionMall.Product.Stock
import FissionMall.C2CToken.Pallet
import FissionMall.C2CToken.Spec
import FissionMall.C2CToken.Invariant
import FissionMall.C2CToken.Stock
import FissionMall.Institution.Institution
import FissionMall.Institution.FreightTemplate
import FissionMall.Institution.PaymentMethod
import FissionMall.Runtime.OrderLifecycle
import FissionMall.Runtime.Ownership
import FissionMall.Runtime.Atomicity
import FissionMall.Runtime.Invariants
import FissionMall.Frame.Records
import FissionMall.Frame.Listing
import FissionMall.Order.Records
import FissionMall.C2COrder.Records
import FissionMall.C2CToken.Records
import FissionMall.Product.Records
import FissionMall.Institution.Records
import FissionMall.Runtime.Records
import FissionMall.Order.Errors
import FissionMall.C2COrder.Errors
import FissionMall.C2CToken.Errors
import FissionMall.Product.Errors
import FissionMall.Institution.Errors
import FissionMall.Frame.Local
import FissionMall.Institution.Commute
import FissionMall.C2COrder.Blocking
import FissionMall.Product.Commute
import FissionMall.C2CToken.Lockout
