import FollowGraph.Relationship

/-!
The Cypher statements that the database is asked to run.

There is a fixed number of them. Only the value of a relationship is ever written into a text;
everything that comes from a caller is a parameter.
-/

set_option autoImplicit false

namespace FollowGraph.Cypher

inductive Statement where
  | userConstraint
  | interestConstraint
  | findNode
  | relationshipExists (kind : Relationship)
  | createEdge (kind : Relationship)
  | deleteEdge (kind : Relationship)
  | outgoing (kind : Relationship)
  | incoming (kind : Relationship)
  | secondDegree
  | secondDegreeCount
  | thirdDegree
  | commonConnection
  | searchFollowing
  | searchFollowers
  | sharedInterest
  | upsertUser
  | updateUser
  | clearInterests
  | addInterests
  | listInterests
  deriving DecidableEq, Repr

/-- How both searches end. -/
def searchFilter : String :=
  "WHERE toLower(coalesce(u.username, '')) CONTAINS toLower($query) OR " ++
  "toLower(coalesce(u.display_name, '')) CONTAINS toLower($query) RETURN u ORDER BY " ++
  "u.username, u.user_id SKIP $skip LIMIT $limit"

/-- The text of a statement, its words separated by single blanks. -/
def Statement.text : Statement → String
  | .userConstraint =>
    "CREATE CONSTRAINT user_id_unique IF NOT EXISTS FOR (u:User) REQUIRE u.user_id IS UNIQUE"
  | .interestConstraint =>
    "CREATE CONSTRAINT interest_name_unique IF NOT EXISTS FOR (i:Interest) REQUIRE i.name IS " ++
    "UNIQUE"
  | .findNode =>
    "MATCH (u:User \x7buser_id: $user_id\x7d) RETURN u"
  | .relationshipExists kind =>
    "MATCH (s:User \x7buser_id: $from_id\x7d)-[r:" ++ kind.value ++
    "]->(t:User \x7buser_id: $to_id\x7d) RETURN count(r) > 0 AS found"
  | .createEdge .following =>
    "MATCH (s:User \x7buser_id: $from_id\x7d), (t:User \x7buser_id: $to_id\x7d) WHERE NOT " ++
    "(s)-[:FOLLOWING]->(t) CREATE (s)-[:FOLLOWING]->(t) SET s.following_number = " ++
    "coalesce(s.following_number, 0) + 1, t.followers_number = coalesce(t.followers_number, " ++
    "0) + 1 RETURN count(*) AS created"
  | .createEdge .blocked =>
    "MATCH (s:User \x7buser_id: $from_id\x7d), (t:User \x7buser_id: $to_id\x7d) WHERE NOT " ++
    "(s)-[:BLOCKED]->(t) CREATE (s)-[:BLOCKED]->(t) RETURN count(*) AS created"
  | .deleteEdge .following =>
    "MATCH (s:User \x7buser_id: $from_id\x7d)-[r:FOLLOWING]->(t:User \x7buser_id: $to_id\x7d) " ++
    "DELETE r SET s.following_number = coalesce(s.following_number, 1) - 1, " ++
    "t.followers_number = coalesce(t.followers_number, 1) - 1 RETURN count(*) AS deleted"
  | .deleteEdge .blocked =>
    "MATCH (s:User \x7buser_id: $from_id\x7d)-[r:BLOCKED]->(t:User \x7buser_id: $to_id\x7d) " ++
    "DELETE r RETURN count(*) AS deleted"
  | .outgoing kind =>
    "MATCH (s:User \x7buser_id: $user_id\x7d)-[:" ++ kind.value ++
    "]->(u:User) RETURN u ORDER BY u.username, u.user_id SKIP $skip LIMIT $limit"
  | .incoming kind =>
    "MATCH (u:User)-[:" ++ kind.value ++
    "]->(t:User \x7buser_id: $user_id\x7d) RETURN u ORDER BY u.username, u.user_id SKIP " ++
    "$skip LIMIT $limit"
  | .secondDegree =>
    "MATCH (me:User \x7buser_id: $user_id\x7d)-[:FOLLOWING]->(:User)-[:FOLLOWING]->(fof:User) " ++
    "WHERE NOT (me)-[:FOLLOWING]->(fof) AND me <> fof RETURN DISTINCT fof AS u ORDER BY " ++
    "u.user_id SKIP $skip LIMIT $limit"
  | .secondDegreeCount =>
    "MATCH (me:User \x7buser_id: $user_id\x7d)-[:FOLLOWING]->(:User)-[:FOLLOWING]->(fof:User) " ++
    "WHERE NOT (me)-[:FOLLOWING]->(fof) AND me <> fof RETURN count(DISTINCT fof) AS total"
  | .thirdDegree =>
    "MATCH (me:User \x7buser_id: " ++
    "$user_id\x7d)-[:FOLLOWING]->(:User)-[:FOLLOWING]->(fof:User)-[:FOLLOWING]->(fofof:User) " ++
    "WHERE NOT (me)-[:FOLLOWING]->(fofof) AND me <> fofof AND fof <> fofof RETURN DISTINCT " ++
    "fofof AS u ORDER BY u.user_id SKIP $skip LIMIT $limit"
  | .commonConnection =>
    "MATCH (s:User \x7buser_id: $from_id\x7d)-[:FOLLOWING]->(x:User)-[:FOLLOWING]->(t:User " ++
    "\x7buser_id: $to_id\x7d) RETURN DISTINCT x AS u ORDER BY u.user_id"
  | .searchFollowing =>
    "MATCH (me:User \x7buser_id: $user_id\x7d)-[:FOLLOWING]->(u:User) " ++ searchFilter
  | .searchFollowers =>
    "MATCH (u:User)-[:FOLLOWING]->(me:User \x7buser_id: $user_id\x7d) " ++ searchFilter
  | .sharedInterest =>
    "MATCH (me:User \x7buser_id: " ++
    "$user_id\x7d)-[:INTERESTED_IN]->(:Interest)<-[:INTERESTED_IN]-(other:User) WHERE other " ++
    "<> me RETURN DISTINCT other AS u ORDER BY u.user_id SKIP $skip LIMIT $limit"
  | .upsertUser =>
    "MERGE (u:User \x7buser_id: $user_id\x7d) ON CREATE SET u.following_number = 0, " ++
    "u.followers_number = 0 SET u.username = $username, u.display_name = $display_name, " ++
    "u.role = $role, u.avatar_reference = $avatar_reference RETURN u"
  | .updateUser =>
    "MATCH (u:User \x7buser_id: $user_id\x7d) SET u.username = $username, u.display_name = " ++
    "$display_name, u.role = $role, u.avatar_reference = $avatar_reference RETURN u"
  | .clearInterests =>
    "MATCH (u:User \x7buser_id: $user_id\x7d) OPTIONAL MATCH " ++
    "(u)-[old:INTERESTED_IN]->(:Interest) DELETE old RETURN count(DISTINCT u) AS found"
  | .addInterests =>
    "MATCH (u:User \x7buser_id: $user_id\x7d) UNWIND $interests AS name MERGE (i:Interest " ++
    "\x7bname: name\x7d) MERGE (u)-[:INTERESTED_IN]->(i)"
  | .listInterests =>
    "MATCH (:User \x7buser_id: $user_id\x7d)-[:INTERESTED_IN]->(i:Interest) RETURN i.name AS " ++
    "name ORDER BY name"

end FollowGraph.Cypher
