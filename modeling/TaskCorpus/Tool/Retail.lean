import TaskCorpus.Tool.Catalog

/-!
# The retail tools

The tools of an agent that serves the customers of a shop. Two of them change the database:
exchanging delivered items and cancelling a pending order.
-/

namespace TaskCorpus.Tool.Retail

/-- The reasons for which a pending order may be cancelled. -/
def cancelReasons : List String := ["no longer needed", "ordered by mistake"]

def orderId : String × Parameter :=
  ("order_id", .string (
    "The order id, such as '#W0000000'. Be careful there is a '#' symbol at the beginning " ++
    "of the order id."))

def findUserIdByEmail : Schema :=
  .function "find_user_id_by_email" (
    "Find user id by email. If the user is not found, the function will return an error " ++
    "message.") [
    ("email", .string (
      "The email of the user, such as 'something@example.com'."))]

def findUserIdByNameZip : Schema :=
  .function "find_user_id_by_name_zip" (
    "Find user id by first name, last name, and zip code. If the user is not found, the " ++
    "function will return an error message. By default, find user id by email, and only " ++
    "call this function if the user is not found by email or cannot remember email.") [
    ("first_name", .string (
      "The first name of the customer, such as 'John'.")),
    ("last_name", .string (
      "The last name of the customer, such as 'Doe'.")),
    ("zip", .string (
      "The zip code of the customer, such as '12345'."))]

def getUserDetails : Schema :=
  .function "get_user_details" (
    "Get the details of a user, including their orders.") [
    ("user_id", .string (
      "The user id, such as 'sara_doe_496'."))]

def getOrderDetails : Schema :=
  .function "get_order_details" (
    "Get the status and details of an order.") [
    orderId]

def getProductDetails : Schema :=
  .function "get_product_details" (
    "Get the inventory details of a product.") [
    ("product_id", .string (
      "The product id, such as '6086499569'. Be careful the product id is different from " ++
      "the item id."))]

def exchangeDeliveredOrderItems : Schema :=
  .function "exchange_delivered_order_items" (
    "Exchange items in a delivered order to new items of the same product type. For a " ++
    "delivered order, return or exchange can be only done once by the agent. The agent " ++
    "needs to explain the exchange detail and ask for explicit user confirmation (yes/no) " ++
    "to proceed.") [
    orderId,
    ("item_ids", .stringList (
      "The item ids to be exchanged, each such as '1008292230'. There could be duplicate " ++
      "items in the list.")),
    ("new_item_ids", .stringList (
      "The item ids to be exchanged for, each such as '1008292230'. There could be " ++
      "duplicate items in the list. Each new item id should match the item id in the same " ++
      "position and be of the same product.")),
    ("payment_method_id", .string (
      "The payment method id to pay or receive refund for the item price difference, such " ++
      "as 'gift_card_0000000' or 'credit_card_0000000'. These can be looked up from the " ++
      "user or order details."))]

def cancelPendingOrder : Schema :=
  .function "cancel_pending_order" (
    "Cancel a pending order. If the order is already processed or delivered, it cannot be " ++
    "cancelled. The agent needs to explain the cancellation detail and ask for explicit " ++
    "user confirmation (yes/no) to proceed. If the user confirms, the order status will be " ++
    "changed to 'cancelled' and the payment will be refunded. The refund will be added to " ++
    "the user's gift card balance immediately if the payment was made using a gift card, " ++
    "otherwise the refund would take 5-7 business days to process. The function returns " ++
    "the order details after the cancellation.") [
    orderId,
    ("reason", (Parameter.string (
      "The reason for cancellation, which should be either 'no longer needed' or 'ordered " ++
      "by mistake'.")).oneOf cancelReasons)]

/-- The catalog of the retail tools. -/
def catalog : Catalog :=
  let lookups := [findUserIdByEmail, findUserIdByNameZip, getUserDetails, getOrderDetails,
    getProductDetails]
  let changes := [exchangeDeliveredOrderItems, cancelPendingOrder]
  let withLookups := lookups.foldl (fun c s => c.register s false) .empty
  changes.foldl (fun c s => c.register s true) withLookups

end TaskCorpus.Tool.Retail
