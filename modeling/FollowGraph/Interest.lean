import FollowGraph.Text.Blank
import FollowGraph.Text.Case

/-!
Interest tags. A text names a tag when, stripped and in lower case, it is the tag's value.
-/

set_option autoImplicit false

namespace FollowGraph

inductive Interest where
  | networking
  | creatorEconomy
  | socialTokens
  | communityBuilding
  | onlineGaming
  | digitalCollectibles
  | metaverse
  | memes
  | defi
  | dao
  | security
  | startups
  | techInnovation
  | entrepreneurship
  | freelancing
  | openSource
  | researchLearning
  | codingDevelopment
  | music
  | animeManga
  | esports
  | fitness
  | sport
  | movies
  | travel
  | foodCooking
  | fashionStyle
  | investing
  | trading
  | cryptoArbitrage
  | personalFinance
  | globalEconomy
  | ai
  | sustainability
  | other
  deriving DecidableEq, Repr

namespace Interest

def all : List Interest := [
    .networking, .creatorEconomy, .socialTokens, .communityBuilding, .onlineGaming,
    .digitalCollectibles, .metaverse, .memes, .defi, .dao, .security, .startups, .techInnovation,
    .entrepreneurship, .freelancing, .openSource, .researchLearning, .codingDevelopment, .music,
    .animeManga, .esports, .fitness, .sport, .movies, .travel, .foodCooking, .fashionStyle,
    .investing, .trading, .cryptoArbitrage, .personalFinance, .globalEconomy, .ai,
    .sustainability, .other]

def value : Interest → String
  | .networking => "networking"
  | .creatorEconomy => "creator_economy"
  | .socialTokens => "social_tokens"
  | .communityBuilding => "community_building"
  | .onlineGaming => "online_gaming"
  | .digitalCollectibles => "digital_collectibles"
  | .metaverse => "metaverse"
  | .memes => "memes"
  | .defi => "defi"
  | .dao => "dao"
  | .security => "security"
  | .startups => "startups"
  | .techInnovation => "tech_innovation"
  | .entrepreneurship => "entrepreneurship"
  | .freelancing => "freelancing"
  | .openSource => "open_source"
  | .researchLearning => "research_learning"
  | .codingDevelopment => "coding_development"
  | .music => "music"
  | .animeManga => "anime_manga"
  | .esports => "esports"
  | .fitness => "fitness"
  | .sport => "sport"
  | .movies => "movies"
  | .travel => "travel"
  | .foodCooking => "food_cooking"
  | .fashionStyle => "fashion_style"
  | .investing => "investing"
  | .trading => "trading"
  | .cryptoArbitrage => "crypto_arbitrage"
  | .personalFinance => "personal_finance"
  | .globalEconomy => "global_economy"
  | .ai => "ai"
  | .sustainability => "sustainability"
  | .other => "other"

def name (tag : Interest) : String := Text.upper tag.value

/-- The tag with exactly this value. -/
def ofValue? (text : String) : Option Interest := all.find? (·.value == text)

/-- The tag that a text names, blanks around it and capitals aside. -/
def ofText? (text : String) : Option Interest := ofValue? (Text.lower (Text.strip text))

end Interest
end FollowGraph
