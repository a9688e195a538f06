/-!
The configuration that is left for users to start from.
-/

namespace Scrollback.Config

def templateLines : List String := [
  "# hark configuration",
  "#",
  "# Copy this file to `config.toml` in the config directory and edit to taste.",
  "# Every section is optional; anything left out is disabled.",
  "",
  "[history]",
  "# Messages kept per channel before the oldest are dropped.",
  "limit = 1000",
  "",
  "[filters]",
  "# Hidden from search results: `nick`, `#channel` or `#channel nick`.",
  "ignore = []",
  "",
  "[highlights]",
  "# Messages from these users never highlight.",
  "blocked = []",
  "",
  "[highlights.subscription]",
  "enabled = true",
  "alert = true",
  "sound = false",
  "",
  "[highlights.whisper]",
  "enabled = true",
  "alert = true",
  "sound = false",
  "",
  "[highlights.self]",
  "enabled = true",
  "alert = true",
  "sound = true",
  "show_in_mentions = true",
  "",
  "[highlights.colors]",
  "highlight = \"#7f3f49\"",
  "subscription = \"#c466ff\"",
  "whisper = \"#ee7c3b\"",
  "self_highlight = \"#7f3f49\"",
  "",
  "# Highlight messages from specific users.",
  "# [[highlights.users]]",
  "# words = [\"ann\"]",
  "# alert = true",
  "# sound = true",
  "# color = \"#3f7f49\"",
  "",
  "# Highlight messages containing a word or matching a regex.",
  "[[highlights.match]]",
  "words = [\"hark\"]",
  "alert = true",
  "show_in_mentions = true",
  "",
  "# [[highlights.match]]",
  "# regex = \"^!ping\\\\b\"",
  "# sound_url = \"file:///usr/share/sounds/ping.wav\"",
  "",
  "# Highlight messages from users with a badge, optionally of one version.",
  "# [[highlights.badges]]",
  "# badge = \"moderator\"",
  "# alert = true",
  "",
  "[sound]",
  "# Used by highlights without a sound_url of their own.",
  "use_custom_fallback = false",
  "# custom_fallback = \"/path/to/ping.wav\"",
  "",
  "[notifications.highlight]",
  "show_toast = true",
  "show_content = false",
  "delay = 500",
  "always_play_sound = false",
  "muted = false",
  "exclude = []",
  "",
  "[logs]",
  "file_level = \"info\""]

def template : String := String.join (templateLines.map (· ++ "\n"))

end Scrollback.Config
