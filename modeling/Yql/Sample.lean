import Yql.Query.Basic

/-!
# Sample queries

Queries that show what the library can say, each with a name, a group and a
description.
-/

namespace Yql

structure Sample where
  name : String
  group : String
  description : String
  query : Query

namespace Sample

def field (name : String) : Field := ⟨name⟩

def decimal (coefficient : Nat) (exponent : Int) : Double :=
  Binary.ofDecimal false ⟨coefficient, exponent⟩

def floating (coefficient : Nat) (exponent : Int) : Value :=
  .float (decimal coefficient exponent)

/-- An exact `contains` predicate. -/
def has (name : String) (text : String) : Condition :=
  (field name).contains (.string text) .exact

def words (texts : List String) : List Value :=
  texts.map .string

/-- A vector of floating numbers, given in powers of ten. -/
def vector (exponent : Int) (coefficients : List Nat) : Json :=
  .array (coefficients.map fun n => .number (.floating (decimal n exponent)))

def filtered (fields : List String) (source : String) (conditions : List Condition)
    (hits : UInt64) : Query :=
  ((({} : Query).returning fields).searching [source]).requiring (Condition.allOf conditions).toList
    |>.limitedTo hits

/-- A category and a stock check. -/
def productSearch : Sample where
  name := "product-search"
  group := "basic"
  description := "Category filter with stock check"
  query :=
    filtered ["id", "title", "price", "brand"] "products"
      [(field "category").equalTo (.string "electronics"),
        (field "stock").greaterThan (.int 0)] 20

def priceRange : Sample where
  name := "price-range"
  group := "basic"
  description := "Inclusive price range"
  query :=
    filtered ["id", "title", "price"] "products"
      [(field "price").inRange (floating 50 0) (floating 200 0)] 10

/-- A disjunction inside a conjunction. -/
def booleanLogic : Sample where
  name := "boolean-logic"
  group := "basic"
  description := "OR inside AND with a negated flag"
  query :=
    filtered ["id", "title", "brand", "category"] "products"
      [((field "brand").among (words ["nike", "adidas"])).or
          ((field "category").equalTo (.string "sportswear")),
        (field "rating").atLeast (floating 4 0),
        .negated ((field "discontinued").equalTo (.bool true))] 15

/-- Two terms in two fields. -/
def textMatching : Sample where
  name := "text-matching"
  group := "basic"
  description := "Two contains predicates"
  query :=
    filtered ["id", "title", "description"] "products"
      [has "title" "wireless", has "description" "bluetooth"] 25

def sameElement : Sample where
  name := "same-element"
  group := "complex"
  description := "sameElement over sizes and attributes"
  query :=
    filtered ["id", "name", "sizes", "attributes"] "products"
      [(field "sizes").sameElement [has "family" "clothing", has "size_value" "M"],
        (field "attributes").sameElement
          [(field "key").equalTo (.string "color"), has "value" "red"],
        has "brand" "nike"] 25

/-- One of two conditions, but not both. -/
def exclusiveOr : Sample where
  name := "xor"
  group := "complex"
  description := "Either brand or type, but not both"
  query :=
    let brand := has "brand" "nike"
    let type := has "item_types" "shoes"
    filtered ["id", "title", "brand", "item_types"] "listings"
      [(brand.or type).and (.negated (brand.and type))] 30

def exclusions : Sample where
  name := "exclusions"
  group := "complex"
  description := "Filtering with negated brand and status"
  query :=
    filtered ["id", "title", "price", "brand", "category"] "products"
      [(field "category").equalTo (.string "electronics"),
        (field "price").inRange (floating 50 0) (floating 500 0),
        .negated ((has "brand" "excluded_brand1").or (has "brand" "excluded_brand2")),
        .negated ((field "status").equalTo (.string "discontinued")),
        (field "rating").atLeast (floating 4 0)] 40

/-- Filters and a rank clause of several signals. -/
def recommendation : Sample where
  name := "recommendation"
  group := "complex"
  description := "Filters plus a multi-signal rank clause"
  query :=
    let rank : Rank := .ofList
      [(field "product_embedding").nearestTo "user_preference_vector" 1000
          [.label "semantic_similarity"],
        .userQueryIndexed "description",
        (field "popularity_score").atLeast (floating 6 (-1)),
        (field "review_sentiment").atLeast (floating 7 (-1)),
        .verbatim "freshness(timestamp) * 0.1 + margin_boost * 0.2"]
    filtered ["id", "title", "price", "brand", "category", "similarity_score"] "products"
      [(field "category").among (words ["electronics", "gadgets", "smartphones"]),
        (field "available").equalTo (.bool true),
        (field "stock").greaterThan (.int 0),
        (field "rating").atLeast (floating 35 (-1)),
        (field "price").inRange (floating 10 0) (floating 1000 0),
        .negated (has "purchased_by_user" "current_user_id")] 50
      |>.rankedBy rank
      |>.binding "input.query(user_preference_vector)" (vector (-1) [1, 2, 3, 4, 5])
      |>.asking "high quality electronics with good reviews"
      |>.inProfile "recommendation_profile"

def vectorBasic : Sample where
  name := "vector-basic"
  group := "vector"
  description := "nearestNeighbor as the only filter"
  query :=
    filtered ["id", "title", "embedding_score"] "products"
      [(field "embedding").nearestTo "query_vector" 1000 []] 50
      |>.binding "input.query(query_vector)" (vector (-1) [1, 2, 3, 4, 5])

/-- A search for nearest neighbours with everything around it. -/
def vectorFiltered : Sample where
  name := "vector-filtered"
  group := "vector"
  description := "nearestNeighbor with label, threshold and filters"
  query :=
    filtered ["id", "title", "price", "category"] "products"
      [(field "embedding").nearestTo "query_vector" 1000
          [.label "main_search", .threshold (decimal 7 (-1))],
        (field "category").among (words ["electronics", "gadgets"]),
        (field "price").inRange (floating 20 0) (floating 500 0)] 30
      |>.binding "input.query(query_vector)" (vector (-1) [2, 3, 4, 5, 6])

/-- Vectors and words in one rank clause. -/
def hybrid : Sample where
  name := "hybrid"
  group := "vector"
  description := "Vector and text signals in the rank clause"
  query :=
    filtered ["id", "title", "description", "brand"] "products"
      [(field "category").equalTo (.string "fashion")] 40
      |>.rankedBy (.ofList
        [(field "embedding").nearestTo "query_vector" 1000 [],
          .userQueryIndexed "description",
          has "brand" "premium"])
      |>.binding "input.query(query_vector)" (vector (-1) [3, 4, 5, 6, 7])
      |>.asking "summer casual wear"
      |>.inProfile "hybrid_profile"

def multiVector : Sample where
  name := "multi-vector"
  group := "vector"
  description := "Three labelled nearestNeighbor rank features"
  query :=
    filtered ["id", "title", "image_url", "color"] "fashion_products"
      [(field "available").equalTo (.bool true)] 25
      |>.rankedBy (.ofList
        [(field "text_embedding").nearestTo "text_vector" 800 [.label "text_similarity"],
          (field "image_embedding").nearestTo "image_vector" 500 [.label "visual_similarity"],
          (field "color_embedding").nearestTo "color_vector" 200 [.label "color_similarity"]])
      |>.binding "input.query(text_vector)" (vector (-1) [1, 2, 3])
      |>.binding "input.query(image_vector)" (vector (-1) [4, 5, 6])
      |>.binding "input.query(color_vector)" (vector (-1) [7, 8, 9])
      |>.inProfile "multi_modal_ranking"

/-- An exact search within a distance. -/
def exactVector : Sample where
  name := "exact-vector"
  group := "vector"
  description := "Exact search with a distance threshold"
  query :=
    filtered ["id", "title"] "research_papers"
      [(field "paper_embedding").nearestTo "query_vector" 500
        [.approximate false, .threshold (decimal 95 (-2)), .label "exact_search"]] 20
      |>.binding "input.query(query_vector)" (vector (-2) [15, 25, 35, 45, 55])

def all : List Sample :=
  [productSearch, priceRange, booleanLogic, textMatching, sameElement, exclusiveOr,
    exclusions, recommendation, vectorBasic, vectorFiltered, hybrid, multiVector,
    exactVector]

/-- The sample query of that name, in any case of the letters `a` to `z`. -/
def find? (name : String) : Option Sample :=
  all.find? fun sample => sample.name.toLower = name.toLower

end Sample

end Yql
